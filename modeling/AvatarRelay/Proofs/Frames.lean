/-
# What a pass leaves alone

A pass reads all peers while it writes to one of them, but it writes little: the snapshot of each
avatar whose data is free, and of a receiver that it serves what is remembered of the candidates
that were visited, with its figures. Visits never make a receiver forget a number that it was
forwarded or an introduction, and a receiver remembers nothing of itself.
-/

import AvatarRelay.Proofs.Introductions

namespace AvatarRelay

namespace Receiver

/-- A later state of a receiver differs in what is remembered of some peers alone, and no number
that was forwarded and no introduction is forgotten. -/
structure Learns (about : PeerId → Prop) (before after : Receiver) : Prop where
  lastForwarded : ∀ id, ¬about id → after.lastForwarded[id]? = before.lastForwarded[id]?
  introduced : ∀ id, ¬about id → after.introduced.contains id = before.introduced.contains id
  muted : ∀ id, ¬about id → after.muted.contains id = before.muted.contains id
  forwarded_kept : ∀ id, before.lastForwarded.contains id = true →
    after.lastForwarded.contains id = true
  introduced_kept : ∀ id, before.introduced.contains id = true →
    after.introduced.contains id = true

namespace Learns

variable {about more : PeerId → Prop} {first second third : Receiver}

theorem of_eq (lastForwarded : second.lastForwarded = first.lastForwarded)
    (introduced : second.introduced = first.introduced) (muted : second.muted = first.muted) :
    first.Learns about second where
  lastForwarded _ _ := by rw [lastForwarded]
  introduced _ _ := by rw [introduced]
  muted _ _ := by rw [muted]
  forwarded_kept _ before := by rwa [lastForwarded]
  introduced_kept _ before := by rwa [introduced]

theorem refl (receiver : Receiver) : receiver.Learns about receiver :=
  of_eq rfl rfl rfl

theorem trans (one : first.Learns about second) (two : second.Learns about third) :
    first.Learns about third where
  lastForwarded id elsewhere :=
    (two.lastForwarded id elsewhere).trans (one.lastForwarded id elsewhere)
  introduced id elsewhere := (two.introduced id elsewhere).trans (one.introduced id elsewhere)
  muted id elsewhere := (two.muted id elsewhere).trans (one.muted id elsewhere)
  forwarded_kept id before := two.forwarded_kept id (one.forwarded_kept id before)
  introduced_kept id before := two.introduced_kept id (one.introduced_kept id before)

theorem mono (learns : first.Learns about second) (weaker : ∀ id, about id → more id) :
    first.Learns more second :=
  { learns with
    lastForwarded := fun id elsewhere => learns.lastForwarded id (mt (weaker id) elsewhere)
    introduced := fun id elsewhere => learns.introduced id (mt (weaker id) elsewhere)
    muted := fun id elsewhere => learns.muted id (mt (weaker id) elsewhere) }

end Learns

/-- The gain of a visit is about the candidate alone. -/
theorem learns_absorb (receiver : Receiver) (other : Candidate) (gain : Gain) :
    receiver.Learns (· = other.id) (receiver.absorb other gain) where
  lastForwarded id elsewhere := by
    simp only [absorb]
    split
    · rw [PeerMap.getElem?_insert_eq, if_neg elsewhere]
    · rfl
  introduced id elsewhere := by
    simp only [absorb]
    split
    · simp [Std.ExtTreeSet.contains_insert, Ne.symm elsewhere]
    · rfl
  muted id elsewhere := by
    simp only [absorb, Gain.contains_silence, if_neg elsewhere]
  forwarded_kept id before := by
    simp only [absorb]
    split
    · rw [Std.ExtTreeMap.contains_insert, before, Bool.or_true]
    · exact before
  introduced_kept id before := by
    simp only [absorb]
    split
    · rw [Std.ExtTreeSet.contains_insert, before, Bool.or_true]
    · exact before

end Receiver

namespace Visit

variable (context : PassContext) (own : Candidate)

/-- A visit teaches a receiver about the candidate, unless that is the receiver itself. -/
theorem learns_next (other : Candidate) (visit : Visit) :
    visit.receiver.Learns (fun id => id ≠ own.id ∧ id = other.id)
      (visit.next context own other).receiver := by
  cases together : own.apart other with
  | true =>
    rw [next_eq, together, if_pos rfl]
    exact .refl _
  | false =>
    have apart : other.id ≠ own.id := by
      intro same
      simp [Candidate.apart, same] at together
    rw [next_eq_absorb]
    refine (visit.receiver.learns_absorb other _).mono fun id here => ⟨?_, here⟩
    rw [here]
    exact apart

theorem learns_foldl (others : List Candidate) (visit : Visit) :
    visit.receiver.Learns (fun id => id ≠ own.id ∧ id ∈ others.map Candidate.id)
      (others.foldl (next context own) visit).receiver := by
  induction others generalizing visit with
  | nil => exact .refl _
  | cons other rest ih =>
    refine .trans ((visit.learns_next context own other).mono ?_) ((ih _).mono ?_)
    · rintro id ⟨apart, rfl⟩
      exact ⟨apart, List.mem_cons_self⟩
    · rintro id ⟨apart, listed⟩
      exact ⟨apart, List.mem_cons_of_mem _ listed⟩

end Visit

namespace Pass

variable {pass : Pass}

/-- A turn teaches a receiver about the others who take part. -/
theorem learns_visit (own : Candidate) (receiver : Receiver) :
    receiver.Learns (fun id => id ≠ own.id ∧ id ∈ pass.audience.map Candidate.id)
      ((pass.visit own receiver).settled pass.now) := by
  obtain ⟨lastForwarded, introduced, muted⟩ :=
    receiver.prepare_keeps pass.context.settings.controller pass.context.now
  let prepared := receiver.prepare pass.context.settings.controller pass.context.now
  have visited : prepared.Learns (fun id => id ≠ own.id ∧ id ∈ pass.audience.map Candidate.id)
      (pass.visit own receiver).receiver :=
    Visit.learns_foldl pass.context own pass.audience
      (Visit.start prepared (pass.stateBefore own.id).random (pass.stateBefore own.id).counters)
  refine (Receiver.Learns.of_eq lastForwarded introduced muted).trans (visited.trans ?_)
  exact .of_eq (Visit.lastForwarded_settled _ _) (Visit.introduced_settled _ _)
    (Visit.muted_settled _ _)

/-- All that a pass does to a peer with client data. -/
theorem passed_of_known {peer : Peer} {client : Client} (known : peer.client = some client) :
    ∃ data, pass.passed peer = { peer with client := some data } ∧
      data.sender = client.sender ∧
      data.avatar = (if pass.order.contains peer.id && !pass.busy peer.id then
        client.avatar.snapshotJoints else client.avatar) ∧
      (pass.serves peer = false → data.receiver = client.receiver) ∧
      client.receiver.Learns (fun id => id ≠ peer.id ∧ id ∈ pass.audience.map Candidate.id)
        data.receiver := by
  obtain ⟨change, passed, changes⟩ := pass.passed_spec peer
  obtain ⟨sender, receiver⟩ := changes client
  have avatar := pass.avatar_passed peer
  rw [passed, Peer.client_mapClient, known] at avatar
  refine ⟨change client, ?_, sender, Option.some.inj avatar, fun unserved => ?_, ?_⟩
  · rw [passed, Peer.mapClient, known]
    rfl
  · rw [receiver, unserved, if_neg Bool.false_ne_true]
  · rw [receiver]
    split
    · exact learns_visit (Candidate.of peer client) client.receiver
    · exact .refl _

section Peers

variable {fanout : Fanout} {peers : List Peer} {busy : PeerId → Bool} {now : Instant}
  {transport : Loopback}

theorem agent_of_mem_audience (distinct : (peers.map Peer.id).Nodup) {id : PeerId}
    (joined : id ∈ (overPeers fanout peers busy now transport).audience.map Candidate.id) :
    ∃ peer ∈ peers, peer.id = id ∧ peer.role = .agent ∧
      transport.hasActiveAddress id = true := by
  obtain ⟨own, present, rfl⟩ := List.mem_map.mp joined
  obtain ⟨peer, among, _, reached, -, rfl⟩ := (mem_audience_overPeers distinct).mp present
  obtain ⟨agent, active⟩ := (Bool.and_eq_true _ _).mp reached
  exact ⟨peer, among, rfl, of_decide_eq_true agent, active⟩

/-- A pass over some peers serves those among them that are free agents with an address. -/
theorem serves_overPeers_eq_false {peer : Peer} (listed : peer ∈ peers) :
    (overPeers fanout peers busy now transport).serves peer = false ↔
      busy peer.id = true ∨ peer.role ≠ .agent ∨
        transport.hasActiveAddress peer.id = false := by
  rw [← Bool.not_eq_true, serves_overPeers listed, not_and_or, not_and_or, Bool.not_eq_false,
    Bool.not_eq_true]

end Peers

end Pass

/-- What one pass over some peers writes. It never changes the identifier, role, session, bubble
or ignored peers of a peer, nor its pose, identity, bounds or figures as a sender. Of a peer whose
data is in use it changes nothing; of all others it takes the snapshot. What is remembered for a
receiver changes only if it is served, and then only about others on the list that are agents
with an address; numbers that were forwarded and introductions are never forgotten. -/
theorem writes_of_pass (fanout : Fanout) {peers : List Peer}
    (distinct : (peers.map Peer.id).Nodup) (busy : PeerId → Bool) (now : Instant)
    (transport : Loopback) :
    let after :=
      (fanout.pass (peers.map Peer.id) busy now (Directory.ofPeers peers) transport).1.directory
    (∀ id, id ∉ peers.map Peer.id → after.find? id = none) ∧
    ∀ peer ∈ peers,
      (peer.client = none → after.find? peer.id = some peer) ∧
      ∀ client, peer.client = some client → ∃ data,
        after.find? peer.id = some { peer with client := some data } ∧
        data.sender = client.sender ∧
        data.avatar.pose = client.avatar.pose ∧
        data.avatar.identity = client.avatar.identity ∧
        data.avatar.bounds = client.avatar.bounds ∧
        (busy peer.id = true → data = client) ∧
        (busy peer.id = false → data.avatar.sentJoints = client.avatar.pose.joints.toArray) ∧
        (busy peer.id = true ∨ peer.role ≠ .agent ∨
            transport.hasActiveAddress peer.id = false →
          data.receiver = client.receiver) ∧
        client.receiver.Learns
          (fun id => id ≠ peer.id ∧ ∃ sender ∈ peers, sender.id = id ∧ sender.role = .agent ∧
            transport.hasActiveAddress id = true)
          data.receiver := by
  intro after
  let pass := Pass.overPeers fanout peers busy now transport
  have proper : pass.Proper := Pass.proper_overPeers distinct
  have found (id : PeerId) : after.find? id = (pass.directory.find? id).map pass.passed :=
    proper.find?_result id
  refine ⟨fun id absent => ?_, fun peer listed => ?_⟩
  · rw [found, Option.map_eq_none_iff, Option.eq_none_iff_forall_ne_some]
    intro peer there
    obtain ⟨among, rfl⟩ := (Pass.find?_overPeers distinct).mp there
    exact absent (List.mem_map_of_mem among)
  have there : pass.directory.find? peer.id = some peer :=
    (Pass.find?_overPeers distinct).mpr ⟨listed, rfl⟩
  rw [found, there, Option.map_some]
  refine ⟨fun silent => congrArg some (Pass.passed_of_silent silent), fun client known => ?_⟩
  obtain ⟨data, passed, sender, avatar, unserved, learns⟩ := pass.passed_of_known known
  have among : pass.order.contains peer.id = true :=
    List.contains_iff_mem.mpr (List.mem_map_of_mem listed)
  rw [among, Bool.true_and] at avatar
  refine ⟨data, congrArg some passed, sender, ?pose, ?identity, ?bounds, fun occupied => ?busy,
    fun free => ?snapshot, fun idle => unserved ((Pass.serves_overPeers_eq_false listed).mpr idle),
    learns.mono fun id there => there.imp_right (Pass.agent_of_mem_audience distinct)⟩
  case pose => rw [avatar]; split <;> rfl
  case identity => rw [avatar]; split <;> rfl
  case bounds => rw [avatar]; split <;> rfl
  case busy =>
    have same : some data = peer.client :=
      congrArg Peer.client (passed.symm.trans (Pass.passed_of_busy occupied))
    exact Option.some.inj (same.trans known)
  case snapshot =>
    have available : pass.busy peer.id = false := free
    rw [avatar, available]
    rfl

/-- Of two agents the second is in use: it is left as it was, and the first takes its snapshot and
learns nothing of itself. -/
theorem writes_among_two :
    let client : Client := { Client.new default with sender := Sender.new.accept 1 }
    let first := (Peer.new (PeerId.ofNat 1) .agent 1).withClient client
    let second := (Peer.new (PeerId.ofNat 2) .agent 2).withClient client
    let transport := ((Loopback.new 0).setAddress first.id true).setAddress second.id true
    let fanout := Fanout.ofSeed ⟨5000, 60, 0, 0⟩ 0
    let after := (fanout.pass [first.id, second.id] (· = second.id) 0
      (Directory.ofPeers [first, second]) transport).1.directory
    after.find? second.id = some second ∧
      ∃ data, after.find? first.id = some (first.withClient data) ∧
        data.avatar.sentJoints = client.avatar.pose.joints.toArray ∧
        data.receiver.lastForwarded[first.id]? = none := by
  intro client first second transport fanout after
  have distinct : ([first, second].map Peer.id).Nodup := by decide +kernel
  obtain ⟨-, writes⟩ := writes_of_pass fanout distinct (· = second.id) 0 transport
  constructor
  · obtain ⟨data, found, -, -, -, -, busy, -⟩ :=
      (writes second (List.mem_cons_of_mem _ List.mem_cons_self)).2 client rfl
    rw [busy (by decide +kernel)] at found
    exact found
  · obtain ⟨data, found, -, -, -, -, -, free, -, learns⟩ :=
      (writes first List.mem_cons_self).2 client rfl
    refine ⟨data, found, free (by decide +kernel), ?_⟩
    rw [learns.lastForwarded first.id fun about => about.1 rfl]
    rfl

end AvatarRelay
