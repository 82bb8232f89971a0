/-
# Orders

The order of the peers does not matter to a pass in which chance plays no part. Serving one
receiver changes nothing that another one's turn reads, and each turn takes the gains of its
visits in any order; so what the order decides is only how the packets of each receiver are
arranged.
-/

import AvatarRelay.Proofs.Batches
import AvatarRelay.Proofs.Certainty

namespace AvatarRelay

-- The zero of a sum is that of the numerals, whatever other instances are in scope.
attribute [local instance (2000)] Zero.ofOfNat0

namespace Pass

variable (pass : Pass)

def reordered (order : List PeerId) : Pass :=
  { pass with order := order }

/-- Chance plays no part when a candidate is visited by a receiver with client data. -/
def Certain (own : Candidate) (client : Client) (other : Candidate) : Prop :=
  pass.context.Certain own (pass.adjustedDistance client) other

/-- Chance plays no part in any visit of the pass. -/
def Settled : Prop :=
  ∀ own ∈ pass.audience, pass.busy own.id = false →
    ∀ client, pass.directory.client? own.id = some client →
      ∀ other ∈ pass.audience, pass.Certain own client other

theorem snapped_reordered (order : List PeerId) (peer : Peer) :
    (pass.reordered order).snapped peer = pass.snapped peer := rfl

theorem turned_of_unserved {peer : Peer}
    (unserved : (pass.busy peer.id || !peer.reachable pass.transport) = true) :
    pass.turned peer = peer :=
  if_pos unserved

theorem turned_of_unknown {peer : Peer} (unknown : peer.client = none) :
    pass.turned peer = peer := by
  rw [turned, Peer.mapClient_of_none unknown, ite_self]

theorem turned_of_served {peer : Peer} {client : Client}
    (served : (pass.busy peer.id || !peer.reachable pass.transport) = false)
    (known : peer.client = some client) :
    pass.turned peer = { peer with client := some (client.mapReceiver fun _ =>
      (pass.visit (Candidate.of peer client) client.receiver).settled pass.now) } := by
  rw [turned, served, if_neg Bool.false_ne_true, Peer.mapClient, known, Option.map_some]

variable {pass}

namespace Proper

variable (proper : pass.Proper)

include proper

/-- A candidate stays introduced or not until its visit comes. -/
theorem introduced_visitBefore (own : Candidate) (receiver : Receiver) {other : Candidate}
    (present : other ∈ pass.audience) :
    (pass.visitBefore own receiver other.id).receiver.introduced.contains other.id =
      receiver.introduced.contains other.id := by
  obtain ⟨earlier, later, split⟩ := List.append_of_mem present
  have fresh := Candidate.not_mem_of_split proper.nodup_audience split
  rw [visitBefore, Candidate.takeWhile_of_split proper.nodup_audience split]
  refine (Visit.contains_introduced_foldl_of_not_mem _ _ _ _ fresh).trans ?_
  exact congrArg (Std.ExtTreeSet.contains · other.id) (receiver.prepare_keeps _ _).2.1

/-- Without chance, the gain of a visit is the same whenever its turn comes. -/
theorem gain_eq {own : Candidate} {client : Client} {other : Candidate}
    (certain : pass.Certain own client other) (present : other ∈ pass.audience) :
    pass.gain own client.receiver other =
      (Visit.start (client.receiver.prepare pass.fanout.settings.controller pass.now)
        pass.fanout.random Counters.zero).gain pass.context own other := by
  obtain ⟨entries, introductions, -⟩ :=
    client.receiver.prepare_keeps pass.fanout.settings.controller pass.now
  have distance := @fullRateDistance_visitBefore pass own client other.id
  refine Visit.gain_congr (by rw [distance]; exact certain) distance ?_ ?_
  · rw [proper.lastForwarded_visitBefore own client.receiver present]
    exact congrArg (·[other.id]?) entries.symm
  · rw [proper.introduced_visitBefore own client.receiver present]
    exact congrArg (Std.ExtTreeSet.contains · other.id) introductions.symm

theorem link_eq_record (id : PeerId) :
    pass.result.1.transport.link id =
      (pass.transport.link id).record pass.transport.historyLimit
        (Parcel.packetsTo id pass.mail) := by
  rw [proper.link_result]
  split
  · rfl
  · next inactive =>
    have absent : id ∉ pass.audience.map Candidate.id := by
      intro joined
      obtain ⟨own, present, rfl⟩ := List.mem_map.mp joined
      exact inactive (proper.active_of_present present)
    rw [packetsTo_mail_of_absent absent, Link.record_nil]

end Proper

theorem shared_result (pass : Pass) :
    pass.result.2 =
      { pass.fanout with random := pass.result.1.random, lastPass := some pass.now } := rfl

section Reordered

variable (proper : pass.Proper) {order : List PeerId} (shuffled : pass.order.Perm order)

include shuffled

theorem audience_perm : pass.audience.Perm (pass.reordered order).audience :=
  shuffled.filterMap _

include proper

theorem Proper.reordered : (pass.reordered order).Proper :=
  ⟨shuffled.nodup_iff.mp proper.distinct, proper.keyed⟩

variable {own : Candidate} {client : Client}
  (certain : ∀ other ∈ pass.audience, pass.Certain own client other)

include certain

theorem gain_reordered {other : Candidate} (present : other ∈ pass.audience) :
    pass.gain own client.receiver other =
      (pass.reordered order).gain own client.receiver other := by
  rw [proper.gain_eq (certain other present) present]
  exact ((proper.reordered shuffled).gain_eq (certain other present)
    ((audience_perm shuffled).subset present)).symm

theorem alike_visit : (pass.visit own client.receiver).Alike
    ((pass.reordered order).visit own client.receiver) := by
  rw [proper.visit_eq_absorbAll, (proper.reordered shuffled).visit_eq_absorbAll]
  have alike : (pass.opening own client.receiver).Alike
      ((pass.reordered order).opening own client.receiver) :=
    Visit.alike_start _ _ _ _ _
  refine alike.absorbAll (audience_perm shuffled)
    (fun other present => gain_reordered proper shuffled certain present) proper.nodup_audience ?_
  intro other present distance measured
  rw [proper.gain_eq (certain other present) present] at measured
  exact @Visit.distance_of_gain _ _ _ (Visit.start _ _ _) (certain other present) _ measured

end Reordered

section Settled

variable (proper : pass.Proper) (settled : pass.Settled) {order : List PeerId}
  (shuffled : pass.order.Perm order)

include proper settled shuffled

theorem tally_reordered {own : Candidate} (present : own ∈ pass.audience) :
    pass.countsOf own = (pass.reordered order).countsOf own ∧
      pass.drawsOf own = (pass.reordered order).drawsOf own := by
  let after := pass.reordered order
  cases occupied : pass.busy own.id with
  | true =>
    have still : after.busy own.id = true := occupied
    rw [countsOf_of_busy occupied, drawsOf_of_busy occupied]
    exact ⟨(countsOf_of_busy still).symm, (drawsOf_of_busy still).symm⟩
  | false =>
    obtain ⟨client, known⟩ := proper.client?_of_present present
    have certain := settled own present occupied client known
    have gains (other : Candidate) (among : other ∈ pass.audience) :
        pass.gain own client.receiver other = after.gain own client.receiver other :=
      gain_reordered proper shuffled certain among
    have free : after.busy own.id = false := occupied
    have still : after.directory.client? own.id = some client := known
    rw [countsOf_of_known occupied known, drawsOf_of_known occupied known,
      Gain.countsOf_perm (audience_perm shuffled) gains,
      Gain.drawsOf_perm (audience_perm shuffled) gains,
      (alike_visit proper shuffled certain).charges]
    exact ⟨(countsOf_of_known free still).symm, (drawsOf_of_known free still).symm⟩

theorem counters_reordered :
    pass.result.1.counters = (pass.reordered order).result.1.counters := by
  rw [proper.tallies.1, (proper.reordered shuffled).tallies.1,
    List.foldl_ext _ (fun counts own => counts + (pass.reordered order).countsOf own) _
      fun counts own present => by
        rw [(tally_reordered proper settled shuffled present).1]]
  exact (audience_perm shuffled).foldl_eq' (fun _ _ _ _ counts => counts.add_right_comm _ _) _

theorem random_reordered :
    pass.result.1.random = (pass.reordered order).result.1.random := by
  rw [proper.tallies.2, (proper.reordered shuffled).tallies.2,
    List.foldl_ext _ (fun random own => random.skip ((pass.reordered order).drawsOf own)) _
      fun random own present => by
        rw [(tally_reordered proper settled shuffled present).2]]
  refine (audience_perm shuffled).foldl_eq' (fun _ _ _ _ random => ?_) _
  rw [Random.skip_skip, Random.skip_skip, Nat.add_comm]

theorem turned_reordered {peer : Peer} (found : pass.directory.find? peer.id = some peer)
    (listed : peer.id ∈ pass.order) :
    pass.turned peer = (pass.reordered order).turned peer := by
  have same : ((pass.reordered order).busy peer.id ||
      !peer.reachable (pass.reordered order).transport) =
        (pass.busy peer.id || !peer.reachable pass.transport) := rfl
  cases unserved : pass.busy peer.id || !peer.reachable pass.transport with
  | true => rw [turned_of_unserved _ unserved, turned_of_unserved _ (same.trans unserved)]
  | false =>
    have free : pass.busy peer.id = false := (Bool.or_eq_false_iff.mp unserved).1
    have reached : peer.reachable pass.transport = true := by
      simpa using (Bool.or_eq_false_iff.mp unserved).2
    cases known : peer.client with
    | none => rw [turned_of_unknown _ known, turned_of_unknown _ known]
    | some client =>
      have present : Candidate.of peer client ∈ pass.audience :=
        proper.mem_audience.mpr ⟨peer, client, found, listed, reached, known, rfl⟩
      have certain := settled _ present free client (client?_of_found found known)
      rw [turned_of_served _ unserved known, turned_of_served _ (same.trans unserved) known,
        (alike_visit proper shuffled certain).settled]
      rfl

/-- A peer comes out of both passes the same. -/
theorem passed_reordered {peer : Peer} (found : pass.directory.find? peer.id = some peer) :
    pass.passed peer = (pass.reordered order).passed peer := by
  have contained : (pass.reordered order).order.contains peer.id = pass.order.contains peer.id := by
    rw [Bool.eq_iff_iff, List.contains_iff_mem, List.contains_iff_mem]
    exact shuffled.mem_iff.symm
  rw [passed, passed, contained]
  split
  · next listed =>
    rw [snapped_reordered,
      turned_reordered proper settled shuffled found (List.contains_iff_mem.mp listed)]
  · rfl

theorem directory_reordered :
    pass.result.1.directory = (pass.reordered order).result.1.directory := by
  apply Directory.ext_find?
  · rw [proper.lastSession_result, (proper.reordered shuffled).lastSession_result]
    rfl
  intro id
  rw [proper.find?_result, (proper.reordered shuffled).find?_result]
  change _ = (pass.directory.find? id).map _
  cases found : pass.directory.find? id with
  | none => rw [Option.map_none, Option.map_none]
  | some peer =>
    have here : peer.id = id := proper.keyed found
    subst here
    rw [Option.map_some, Option.map_some, passed_reordered proper settled shuffled found]

theorem packetsOf_reordered {own : Candidate} (present : own ∈ pass.audience) :
    OutboundPacket.Rearranged (pass.packetsOf own) ((pass.reordered order).packetsOf own) := by
  cases occupied : pass.busy own.id with
  | true =>
    have still : (pass.reordered order).busy own.id = true := occupied
    rw [packetsOf_of_busy occupied, packetsOf_of_busy still]
    exact OutboundPacket.rearranged_nil
  | false =>
    obtain ⟨client, known⟩ := proper.client?_of_present present
    have free : (pass.reordered order).busy own.id = false := occupied
    have still : (pass.reordered order).directory.client? own.id = some client := known
    rw [packetsOf_of_known occupied known, packetsOf_of_known free still]
    exact (alike_visit proper shuffled (settled own present occupied client known)).rearranged
      (identities_visit own client.receiver)

/-- What a peer is sent is the same in both passes, but for its order. -/
theorem packetsTo_reordered (id : PeerId) :
    OutboundPacket.Rearranged (Parcel.packetsTo id pass.mail)
      (Parcel.packetsTo id (pass.reordered order).mail) := by
  have same := (audience_perm shuffled).map Candidate.id
  by_cases joined : id ∈ pass.audience.map Candidate.id
  · obtain ⟨own, present, rfl⟩ := List.mem_map.mp joined
    rw [proper.packetsTo_mail present, (proper.reordered shuffled).packetsTo_mail
      ((audience_perm shuffled).subset present)]
    exact packetsOf_reordered proper settled shuffled present
  · rw [packetsTo_mail_of_absent joined,
      packetsTo_mail_of_absent fun there => joined (same.mem_iff.mpr there)]
    exact OutboundPacket.rearranged_nil

end Settled

/-- A receiver comes to ask whether it admits a sender: all questions of the visit before that
one are answered in favor. -/
structure Considers (pass : Pass) (receiver : Peer) (client : Client) (sender : Peer)
    (data : Client) : Prop where
  serves : pass.serves receiver = true
  other : sender.id ≠ receiver.id
  reached : sender.reachable pass.transport = true
  heard : receiver.isIgnoring sender.id = false
  hearing : sender.isIgnoring receiver.id = false
  free : pass.busy sender.id = false
  outside : ¬ ((receiver.bubbleEnabled = true ∨ sender.bubbleEnabled = true) ∧
    Bubble.standard.touch client.avatar data.avatar = true)

/-- Chance plays no part in a pass over some peers when it plays none in what is asked of those
that are considered. -/
theorem settled_overPeers {fanout : Fanout} {peers : List Peer} {busy : PeerId → Bool}
    {now : Instant} {transport : Loopback} (distinct : (peers.map Peer.id).Nodup)
    (identities : fanout.settings.identityProbability.numEq 0 = true)
    (fullness : fanout.settings.fullShare.numEq 0 = true ∨
      fanout.settings.fullShare.numEq 1 = true)
    (admission : let pass := overPeers fanout peers busy now transport
      ∀ receiver ∈ peers, ∀ sender ∈ peers, ∀ client data,
        receiver.client = some client → sender.client = some data →
        pass.Considers receiver client sender data →
        let distance := client.avatar.position.distanceTo data.avatar.position
        distance.numEq 0 = true ∨ 1 ≤ pass.adjustedDistance client / distance) :
    (overPeers fanout peers busy now transport).Settled := by
  intro own present free client known other among
  obtain ⟨receiver, listed, held, reached, owned, rfl⟩ :=
    (mem_audience_overPeers distinct).mp present
  obtain ⟨sender, sending, data, reachable, given, rfl⟩ :=
    (mem_audience_overPeers distinct).mp among
  have found : (overPeers fanout peers busy now transport).directory.find?
      (Candidate.of receiver held).id = some receiver :=
    (find?_overPeers distinct).mpr ⟨listed, rfl⟩
  rw [Directory.client?, found, Option.bind_some, owned] at known
  cases known
  refine ⟨identities, fullness, fun together available outside => ?_⟩
  obtain ⟨other, heard, hearing⟩ := Candidate.apart_eq_false_iff.mp together
  obtain ⟨agent, active⟩ := (Bool.and_eq_true _ _).mp reached
  exact admission receiver listed sender sending client data owned given
    { serves := (serves_overPeers listed).mpr ⟨free, of_decide_eq_true agent, active⟩
      other := other
      reached := reachable
      heard := heard
      hearing := hearing
      free := available
      outside := Candidate.muted_eq_false_iff.mp outside }

end Pass

theorem Directory.ofPeers_perm {peers others : List Peer} (distinct : (peers.map Peer.id).Nodup)
    (shuffled : peers.Perm others) : ofPeers peers = ofPeers others := by
  have again : (others.map Peer.id).Nodup := (shuffled.map Peer.id).nodup_iff.mp distinct
  refine ext_find? ?_ fun id => Option.ext fun peer => ?_
  · rfl
  · rw [find?_ofPeers_eq_some_iff distinct, find?_ofPeers_eq_some_iff again, shuffled.mem_iff]

/-- The order of the peers is irrelevant when chance plays no part: when an unchanged identity
is never sent again, later updates are never full or always, and whoever comes to admission
stands in the same place or is sure to be admitted. A pass over the peers in any other order
counts the same, leaves everyone's client data, the stream of chance and the time of the pass
the same, and sends everyone the same identity packets and the same segments, in as many
bytes. -/
theorem order_of_peers_irrelevant (fanout : Fanout) {peers others : List Peer}
    (distinct : (peers.map Peer.id).Nodup) (shuffled : peers.Perm others) (now : Instant)
    (transport : Loopback)
    (identities : fanout.settings.identityProbability.numEq 0 = true)
    (fullness : fanout.settings.fullShare.numEq 0 = true ∨
      fanout.settings.fullShare.numEq 1 = true)
    (admission : let pass := Pass.overPeers fanout peers (fun _ => false) now transport
      ∀ receiver ∈ peers, ∀ sender ∈ peers, ∀ client data,
        receiver.client = some client → sender.client = some data →
        pass.Considers receiver client sender data →
        let distance := client.avatar.position.distanceTo data.avatar.position
        distance.numEq 0 = true ∨ 1 ≤ pass.adjustedDistance client / distance) :
    let pass := Pass.overPeers fanout peers (fun _ => false) now transport
    let again := Pass.overPeers fanout others (fun _ => false) now transport
    let first := fanout.pass (peers.map Peer.id) (fun _ => false) now
      (Directory.ofPeers peers) transport
    let second := fanout.pass (others.map Peer.id) (fun _ => false) now
      (Directory.ofPeers others) transport
    let written := fun packets : List OutboundPacket =>
      (packets.map fun packet => (OutboundPacket.format.write packet).length).sum
    first.1.counters = second.1.counters ∧ first.1.directory = second.1.directory ∧
      first.2 = second.2 ∧
      ∀ id,
        first.1.transport.link id = (transport.link id).record transport.historyLimit
          (Parcel.packetsTo id pass.mail) ∧
        second.1.transport.link id = (transport.link id).record transport.historyLimit
          (Parcel.packetsTo id again.mail) ∧
        OutboundPacket.Rearranged (Parcel.packetsTo id pass.mail)
          (Parcel.packetsTo id again.mail) ∧
        written (Parcel.packetsTo id pass.mail) = written (Parcel.packetsTo id again.mail) ∧
        (first.1.transport.link id).bytesSent = (transport.link id).bytesSent +
          UInt64.ofNat (written (Parcel.packetsTo id pass.mail)) ∧
        (first.1.transport.link id).bytesSent = (second.1.transport.link id).bytesSent := by
  intro pass again first second written
  have proper : pass.Proper := Pass.proper_overPeers distinct
  have order : pass.order.Perm (others.map Peer.id) := shuffled.map Peer.id
  have settled : pass.Settled := Pass.settled_overPeers distinct identities fullness admission
  have same : again = pass.reordered (others.map Peer.id) := by
    change Pass.mk fanout _ (fun _ => false) now (Directory.ofPeers others) transport =
      Pass.mk fanout _ (fun _ => false) now (Directory.ofPeers peers) transport
    rw [Directory.ofPeers_perm distinct shuffled]
  rw [show first = pass.result from rfl, show second = again.result from rfl, same]
  refine ⟨Pass.counters_reordered proper settled order,
    Pass.directory_reordered proper settled order, ?_, fun id => ?_⟩
  · rw [pass.shared_result, Pass.shared_result, Pass.random_reordered proper settled order]
    rfl
  · have rearranged := Pass.packetsTo_reordered proper settled order id
    have sent := proper.link_eq_record id
    have resent := (proper.reordered order).link_eq_record id
    have bytes := rearranged.totalLength
    have grown := (congrArg Link.bytesSent sent).trans (Link.bytesSent_record _ _ _)
    have regrown := (congrArg Link.bytesSent resent).trans (Link.bytesSent_record _ _ _)
    refine ⟨sent, resent, rearranged, bytes, grown, grown.trans ?_⟩
    rw [bytes]
    exact regrown.symm

/-- Two agents three meters apart, each of which has sent an update, are served in either order:
both times two updates are sent, to each as many bytes, and chance goes on the same. -/
theorem orders_of_two :
    let near : Client := { Client.new default with sender := Sender.new.accept 1 }
    let far : Client :=
      { near with avatar :=
          { near.avatar with pose := { near.avatar.pose with position := ⟨3, 0, 0⟩ } } }
    let one := (Peer.new (PeerId.ofNat 1) .agent 1).withClient near
    let two := (Peer.new (PeerId.ofNat 2) .agent 2).withClient far
    let transport := ((Loopback.new 0).setAddress one.id true).setAddress two.id true
    let fanout := Fanout.ofSeed ⟨5000, 60, 0, 1⟩ 0
    let first := fanout.pass [one.id, two.id] (fun _ => false) 0
      (Directory.ofPeers [one, two]) transport
    let second := fanout.pass [two.id, one.id] (fun _ => false) 0
      (Directory.ofPeers [two, one]) transport
    first.1.counters.avatarsSent = 2 ∧ first.1.counters = second.1.counters ∧
      first.2 = second.2 ∧
      (first.1.transport.link one.id).bytesSent = (second.1.transport.link one.id).bytesSent := by
  intro near far one two transport fanout first second
  have distinct : ([one, two].map Peer.id).Nodup := by decide +kernel
  have places : ∀ peer ∈ [one, two], ∀ client, peer.client = some client →
      client = near ∨ client = far := by
    intro peer listed client owned
    rcases List.mem_pair.mp listed with rfl | rfl
    · exact Or.inl (Option.some.inj owned).symm
    · exact Or.inr (Option.some.inj owned).symm
  obtain ⟨counters, -, shared, links⟩ := order_of_peers_irrelevant fanout distinct
    (List.Perm.swap two one []) 0 transport (by decide +kernel) (by decide +kernel) (by
      intro pass receiver listed sender sending client data owned given considers distance
      rcases places receiver listed client owned with rfl | rfl <;>
        rcases places sender sending data given with rfl | rfl
      · exact Or.inl (by decide +kernel)
      · exact Or.inr (by decide +kernel)
      · exact Or.inr (by decide +kernel)
      · exact Or.inl (by decide +kernel))
  exact ⟨by decide +kernel, counters, shared, (links one.id).2.2.2.2.2⟩

end AvatarRelay
