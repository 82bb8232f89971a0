/-
# Accounts

A pass keeps three books: its own counters, the figures of each receiver that it serves, and the
transport's record of what each peer is sent. One visit enters the same into the first two, the
end of a turn enters what is sent into the first and the third; so the books of every turn agree,
and so do those of the pass.
-/

import AvatarRelay.Proofs.Contention
import AvatarRelay.Proofs.Tallies

namespace AvatarRelay

-- The zero of a sum is that of the numerals, whatever other instances are in scope.
attribute [local instance (2000)] Zero.ofOfNat0

namespace Counters

/-- A field of counters that adds up when counters do. -/
structure Additive (field : Counters → UInt64) : Prop where
  zero : field zero = 0
  add (first second : Counters) : field (first + second) = field first + field second

/-- Such a field of a sum is the sum of what the items come to. -/
theorem Additive.sum_map {field : Counters → UInt64} (additive : Additive field) {Item : Type}
    {counts : Item → Counters} {amount : Item → Nat} {items : List Item}
    (each : ∀ item ∈ items, field (counts item) = UInt64.ofNat (amount item)) :
    field (sum (items.map counts)) = UInt64.ofNat (items.map amount).sum := by
  induction items with
  | nil => exact additive.zero
  | cons first rest ih =>
    rw [List.map_cons, sum_cons, additive.add, each first List.mem_cons_self,
      ih fun item listed => each item (List.mem_cons_of_mem _ listed), List.map_cons,
      List.sum_cons, UInt64.ofNat_add]

end Counters

namespace OutboundPacket

def segmentCount : OutboundPacket → Nat
  | bulkAvatarData batch => batch.size
  | avatarIdentity .. | killAvatar .. => 0

def introductionCount : OutboundPacket → Nat
  | avatarIdentity .. => 1
  | bulkAvatarData .. | killAvatar .. => 0

def total (measure : OutboundPacket → Nat) (packets : List OutboundPacket) : Nat :=
  (packets.map measure).sum

variable (measure : OutboundPacket → Nat)

theorem total_append (first second : List OutboundPacket) :
    total measure (first ++ second) = total measure first + total measure second := by
  rw [total, List.map_append, List.sum_append, total, total]

/-- Packets that measure the same each come to that many times as much. -/
theorem total_of_all {packets : List OutboundPacket} {amount : Nat}
    (all : ∀ packet ∈ packets, measure packet = amount) :
    total measure packets = packets.length * amount := by
  induction packets with
  | nil => exact (Nat.zero_mul _).symm
  | cons first rest ih =>
    have later := ih fun packet listed => all packet (List.mem_cons_of_mem _ listed)
    rw [total] at later
    rw [total, List.map_cons, List.sum_cons, all first List.mem_cons_self, later,
      List.length_cons, Nat.succ_mul, Nat.add_comm]

end OutboundPacket

namespace Pass

variable (pass : Pass)

def packets : List OutboundPacket :=
  pass.mail.map Parcel.packet

/-- What a pass sends comes to what its turns send. -/
theorem total_packets (measure : OutboundPacket → Nat) :
    OutboundPacket.total measure pass.packets =
      (pass.audience.map fun own => OutboundPacket.total measure (pass.packetsOf own)).sum := by
  rw [packets, mail]
  induction pass.audience with
  | nil => rfl
  | cons own rest ih =>
    have addressed : (Parcel.addressed own.id (pass.packetsOf own)).map Parcel.packet =
        pass.packetsOf own := by
      rw [Parcel.addressed, List.map_map]
      exact List.map_id _
    rw [List.flatMap_cons, List.map_append, OutboundPacket.total_append, addressed, ih,
      List.map_cons, List.sum_cons]

end Pass

namespace PeerMap

variable {Value : Type} (map : PeerMap Value) (id : PeerId)

/-- An entry stands before those of the others, up to order. -/
theorem toList_insert_perm (value : Value) :
    (map.insert id value).toList.Perm ((id, value) :: map.toList.filter (·.1 ≠ id)) := by
  have distinct (map : PeerMap Value) : map.toList.Nodup :=
    map.distinct_keys_toList.imp fun apart same => by simp [same] at apart
  refine (List.perm_ext_iff_of_nodup (distinct _) ?_).mpr fun ⟨other, entry⟩ => ?_
  · exact List.nodup_cons.mpr ⟨by simp, (distinct map).filter _⟩
  · rw [List.mem_cons, List.mem_filter, Std.ExtTreeMap.mem_toList_iff_getElem?_eq_some,
      Std.ExtTreeMap.mem_toList_iff_getElem?_eq_some, getElem?_insert_eq, Prod.mk.injEq]
    by_cases here : other = id
    · simp [here, eq_comm]
    · simp [here]

end PeerMap

namespace Loopback

variable (transport : Loopback)

/-- The bytes sent over all links, in a count of eight bytes like those of the links. -/
def totalBytes : UInt64 :=
  (transport.links.toList.map fun (_, link) => link.bytesSent).sum

theorem totalBytes_insert (id : PeerId) (link : Link) :
    totalBytes { transport with links := transport.links.insert id link } =
      link.bytesSent +
        ((transport.links.toList.filter (·.1 ≠ id)).map fun (_, link) => link.bytesSent).sum :=
  (UInt64.sum_perm ((PeerMap.toList_insert_perm transport.links id link).map _)).trans
    List.sum_cons

/-- A link that can be reached is one of the links. -/
theorem links_of_active {id : PeerId} (active : transport.hasActiveAddress id = true) :
    transport.links[id]? = some (transport.link id) := by
  rw [hasActiveAddress, link] at active
  rw [link]
  cases entry : transport.links[id]? with
  | none =>
    rw [entry] at active
    cases active
  | some link => rfl

theorem totalBytes_deliver {parcel : Parcel}
    (active : transport.hasActiveAddress parcel.destination = true) :
    (transport.deliver parcel).totalBytes =
      transport.totalBytes + UInt64.ofNat parcel.packet.encodedLength := by
  have linked : transport.links.insert parcel.destination (transport.link parcel.destination) =
      transport.links := by
    refine Std.ExtTreeMap.ext_getElem? fun id => ?_
    rw [PeerMap.getElem?_insert_eq]
    split
    · next here => rw [here, transport.links_of_active active]
    · rfl
  have before := transport.totalBytes_insert parcel.destination
    (transport.link parcel.destination)
  rw [linked] at before
  have taken : (transport.link parcel.destination).hasAddress = true := active
  simp only [deliver, send, taken, if_true]
  rw [totalBytes_insert, before]
  dsimp only
  ac_rfl

theorem totalBytes_deliverAll {mail : List Parcel}
    (active : ∀ parcel ∈ mail, transport.hasActiveAddress parcel.destination = true) :
    (transport.deliverAll mail).totalBytes =
      transport.totalBytes +
        UInt64.ofNat (OutboundPacket.totalLength (mail.map Parcel.packet)) := by
  induction mail generalizing transport with
  | nil => exact (UInt64.add_zero _).symm
  | cons parcel rest ih =>
    have later : ∀ parcel ∈ rest, (transport.deliver _).hasActiveAddress _ = true :=
      fun other listed => (transport.hasActiveAddress_deliver parcel _).trans
        (active other (List.mem_cons_of_mem _ listed))
    rw [deliverAll_cons, ih _ later, transport.totalBytes_deliver (active _ List.mem_cons_self),
      UInt64.add_assoc, ← UInt64.ofNat_add]
    rfl

end Loopback

/-! ## The figures of a receiver -/

/-- What a receiver counts: of its last pass, and of all. -/
structure Figures where
  sent : Nat
  heldBack : Nat
  skipped : Nat
  outOfOrder : Nat
  outOfOrderTotal : UInt64
  deriving DecidableEq

namespace Receiver

variable (receiver : Receiver)

def figures : Figures :=
  ⟨receiver.sentLastPass, receiver.heldBackLastPass, receiver.skippedLastPass,
    receiver.outOfOrderLastPass, receiver.outOfOrderTotal⟩

theorem figures_prepare (controller : RateController) (now : Instant) :
    (receiver.prepare controller now).figures = ⟨0, 0, 0, 0, receiver.outOfOrderTotal⟩ := by
  have kept (before : Receiver) (observed : Binary32) :
      (controller.step before observed).1.figures = before.figures := by
    unfold RateController.step
    split
    · rfl
    · dsimp only
      split <;> rfl
  exact kept _ _

end Receiver

namespace Visit

theorem figures_settled (visit : Visit) (now : Instant) :
    (visit.settled now).figures = visit.receiver.figures := by
  unfold settled
  cases visit.farthest <;> cases visit.batch.isEmpty <;> rfl

/-- The books of a turn agree so far: the counters have the figures of the receiver and none of
what is counted at the end of the turn. -/
structure Booked (outOfOrderBefore : UInt64) (visit : Visit) : Prop where
  sent : visit.receiver.figures.sent = visit.batch.size
  heldBack : visit.counters.heldBack = UInt64.ofNat visit.receiver.figures.heldBack
  skipped : visit.counters.skipped = UInt64.ofNat visit.receiver.figures.skipped
  outOfOrder : visit.counters.outOfOrder = UInt64.ofNat visit.receiver.figures.outOfOrder
  grown : visit.receiver.figures.outOfOrderTotal =
    outOfOrderBefore + UInt64.ofNat visit.receiver.figures.outOfOrder
  listeners : visit.counters.listeners = 0
  identityPackets : visit.counters.identityPackets = 0
  avatarsSent : visit.counters.avatarsSent = 0
  bytesSent : visit.counters.bytesSent = 0
  sendFailures : visit.counters.sendFailures = 0

namespace Booked

variable {before : UInt64} {visit : Visit} (booked : Booked before visit)

include booked

/-- A visit makes the same entries in both books. -/
theorem absorb (other : Candidate) (gain : Gain) : Booked before (visit.absorb other gain) := by
  have entered {count : UInt64} {figure : Nat} (agreed : count = UInt64.ofNat figure)
      (bit : Bool) : count + bit.toUInt64 = UInt64.ofNat (figure + bit.toNat) := by
    rw [agreed, UInt64.ofNat_add, UInt64.ofNat_toNat_bool]
  constructor
  all_goals simp only [Visit.absorb, Receiver.absorb, Receiver.figures, Gain.add_counts]
  case sent =>
    have one : gain.update.isSome.toNat = (gain.segments other).length := by
      rw [Gain.segments]
      cases gain.update <;> rfl
    rw [Batch.size, List.length_append, ← one]
    exact congrArg (· + _) booked.sent
  case heldBack => exact entered booked.heldBack _
  case skipped => exact entered booked.skipped _
  case outOfOrder => exact entered booked.outOfOrder _
  case grown =>
    rw [UInt64.ofNat_add, UInt64.ofNat_toNat_bool, ← UInt64.add_assoc]
    exact congrArg (· + _) booked.grown
  case listeners => exact booked.listeners
  case identityPackets => exact booked.identityPackets
  case avatarsSent => exact booked.avatarsSent
  case bytesSent => exact booked.bytesSent
  case sendFailures => exact booked.sendFailures

theorem absorbAll (gains : Candidate → Gain) (others : List Candidate) :
    Booked before (visit.absorbAll gains others) := by
  induction others generalizing visit with
  | nil => exact booked
  | cons first rest ih => exact ih (booked.absorb first (gains first))

end Booked

/-- The books agree before the first visit. -/
theorem booked_start (receiver : Receiver) (controller : RateController) (now : Instant)
    (random : Random) :
    (start (receiver.prepare controller now) random Counters.zero).Booked
      receiver.outOfOrderTotal := by
  have figures : (start (receiver.prepare controller now) random Counters.zero).receiver.figures =
      ⟨0, 0, 0, 0, receiver.outOfOrderTotal⟩ := receiver.figures_prepare controller now
  constructor
  case grown =>
    rw [figures]
    exact (UInt64.add_zero _).symm
  all_goals first | rw [figures]; rfl | rfl

/-- What a turn sends are the segments of its batch and its identity packets. -/
theorem total_packets (visit : Visit)
    (identities : ∀ packet ∈ visit.identities,
      ∃ avatar identity, packet = .avatarIdentity avatar identity) :
    OutboundPacket.total OutboundPacket.segmentCount visit.packets = visit.batch.size ∧
      OutboundPacket.total OutboundPacket.introductionCount visit.packets =
        visit.identities.length := by
  have silent : ∀ packet ∈ visit.identities, packet.segmentCount = 0 := by
    intro packet due
    obtain ⟨avatar, identity, rfl⟩ := identities packet due
    rfl
  have single : ∀ packet ∈ visit.identities, packet.introductionCount = 1 := by
    intro packet due
    obtain ⟨avatar, identity, rfl⟩ := identities packet due
    rfl
  rw [packets, OutboundPacket.total_append, OutboundPacket.total_append,
    OutboundPacket.total_of_all _ silent, OutboundPacket.total_of_all _ single]
  cases empty : visit.batch.isEmpty with
  | true => simp [OutboundPacket.total, Batch.size, List.isEmpty_iff.mp empty]
  | false => simp [OutboundPacket.total, OutboundPacket.segmentCount,
      OutboundPacket.introductionCount]

end Visit

namespace Directory

/-- What a peer is as a receiver; one that was sent nothing if it has no client data. -/
def receiverOf (directory : Directory) (id : PeerId) : Receiver :=
  ((directory.client? id).map Client.receiver).getD Receiver.new

end Directory

namespace Pass

variable (pass : Pass)

/-- A figure of one who is served, as it is after the pass; nothing for the others. -/
def figureOf (figure : Receiver → Nat) (id : PeerId) : Nat :=
  if pass.busy id then 0 else figure (pass.result.1.directory.receiverOf id)

structure Booked (own : Candidate) : Prop where
  listeners : (pass.countsOf own).listeners = UInt64.ofNat (pass.figureOf (fun _ => 1) own.id)
  avatarsSent : (pass.countsOf own).avatarsSent =
    UInt64.ofNat (OutboundPacket.total OutboundPacket.segmentCount (pass.packetsOf own))
  sent : OutboundPacket.total OutboundPacket.segmentCount (pass.packetsOf own) =
    pass.figureOf Receiver.sentLastPass own.id
  heldBack : (pass.countsOf own).heldBack =
    UInt64.ofNat (pass.figureOf Receiver.heldBackLastPass own.id)
  skipped : (pass.countsOf own).skipped =
    UInt64.ofNat (pass.figureOf Receiver.skippedLastPass own.id)
  outOfOrder : (pass.countsOf own).outOfOrder =
    UInt64.ofNat (pass.figureOf Receiver.outOfOrderLastPass own.id)
  identityPackets : (pass.countsOf own).identityPackets =
    UInt64.ofNat (OutboundPacket.total OutboundPacket.introductionCount (pass.packetsOf own))
  bytesSent : (pass.countsOf own).bytesSent =
    UInt64.ofNat (OutboundPacket.totalLength (pass.packetsOf own))
  sendFailures : (pass.countsOf own).sendFailures = 0

variable {pass}

namespace Proper

variable (proper : pass.Proper)

include proper

theorem booked_visit (own : Candidate) (receiver : Receiver) :
    Visit.Booked receiver.outOfOrderTotal
      { pass.visit own receiver with
        counters := Gain.countsOf (pass.gain own receiver) pass.audience } := by
  have booked := (Visit.booked_start receiver pass.context.settings.controller pass.context.now
    (pass.stateBefore own.id).random).absorbAll (pass.gain own receiver) pass.audience
  rw [Visit.absorbAll_eq, Visit.start, Counters.zero_add] at booked
  rw [proper.visit_eq_absorbAll, Visit.absorbAll_eq]
  exact booked

theorem client?_result {own : Candidate} {client : Client} (present : own ∈ pass.audience)
    (free : pass.busy own.id = false) (known : pass.directory.client? own.id = some client) :
    ∃ data, pass.result.1.directory.client? own.id = some data ∧
      data.receiver = (pass.visit own client.receiver).settled pass.now := by
  obtain ⟨peer, data, found, given, rfl, served⟩ := proper.served_of_present present free
  have same : data = client := by
    rw [client?_of_found found given] at known
    exact Option.some.inj known
  subst same
  obtain ⟨change, passed, changes⟩ := pass.passed_spec peer
  refine ⟨change data, ?_, (changes data).2.trans (if_pos served)⟩
  have there : pass.directory.find? (Candidate.of peer data).id = some peer := found
  rw [Directory.client?, proper.find?_result, there, Option.map_some, Option.bind_some, passed,
    Peer.client_mapClient, given, Option.map_some]

/-- The books of each turn agree. -/
theorem booked_turn {own : Candidate} (present : own ∈ pass.audience) : pass.Booked own := by
  cases occupied : pass.busy own.id with
  | true =>
    constructor
    all_goals
      simp only [countsOf_of_busy occupied, packetsOf_of_busy occupied, figureOf, occupied,
        if_true]
      rfl
  | false =>
    obtain ⟨client, known⟩ := proper.client?_of_present present
    obtain ⟨data, left, settled⟩ := proper.client?_result present occupied known
    have booked := proper.booked_visit own client.receiver
    have counted : pass.countsOf own =
        Counters.add (Gain.countsOf (pass.gain own client.receiver) pass.audience)
          (pass.visit own client.receiver).charges :=
      countsOf_of_known occupied known
    have receiver : pass.result.1.directory.receiverOf own.id = data.receiver := by
      rw [Directory.receiverOf, left, Option.map_some, Option.getD_some]
    have figures : data.receiver.figures = (pass.visit own client.receiver).receiver.figures := by
      rw [settled, Visit.figures_settled]
    obtain ⟨segments, introductions⟩ := Visit.total_packets (pass.visit own client.receiver)
      (identities_visit own client.receiver)
    constructor
    all_goals
      simp only [counted, packetsOf_of_known occupied known, figureOf, occupied, receiver,
        Bool.false_eq_true, if_false, Counters.add, Visit.charges, Counters.zero,
        UInt64.add_zero, segments, introductions]
    case listeners => rw [booked.listeners]; rfl
    case avatarsSent => rw [booked.avatarsSent, UInt64.zero_add]
    case sent => exact booked.sent.symm.trans (congrArg Figures.sent figures).symm
    case heldBack => exact booked.heldBack.trans (congrArg (UInt64.ofNat ·.heldBack) figures.symm)
    case skipped => exact booked.skipped.trans (congrArg (UInt64.ofNat ·.skipped) figures.symm)
    case outOfOrder =>
      exact booked.outOfOrder.trans (congrArg (UInt64.ofNat ·.outOfOrder) figures.symm)
    case identityPackets => rw [booked.identityPackets, UInt64.zero_add]
    case bytesSent => rw [booked.bytesSent, UInt64.zero_add]
    case sendFailures => exact booked.sendFailures

/-- A counter that adds up is the sum of what the turns enter in it. -/
theorem counter_result {field : Counters → UInt64} (additive : Counters.Additive field)
    {amount : Candidate → Nat}
    (each : ∀ own ∈ pass.audience, field (pass.countsOf own) = UInt64.ofNat (amount own)) :
    field pass.result.1.counters = UInt64.ofNat (pass.audience.map amount).sum := by
  rw [proper.tallies.1, ← List.foldl_map, ← Counters.sum]
  exact additive.sum_map each

/-- What one who is served counts of its last pass, it has added to what it counts of all. -/
theorem outOfOrder_result {own : Candidate} {client : Client} (present : own ∈ pass.audience)
    (free : pass.busy own.id = false) (known : pass.directory.client? own.id = some client) :
    ∃ data, pass.result.1.directory.client? own.id = some data ∧
      data.receiver.outOfOrderTotal =
        client.receiver.outOfOrderTotal + UInt64.ofNat data.receiver.outOfOrderLastPass := by
  obtain ⟨data, left, settled⟩ := proper.client?_result present free known
  have grown := (proper.booked_visit own client.receiver).grown
  have figures : data.receiver.figures = (pass.visit own client.receiver).receiver.figures := by
    rw [settled, Visit.figures_settled]
  refine ⟨data, left, ?_⟩
  rw [← figures] at grown
  exact grown

end Proper

section Peers

variable {fanout : Fanout} {peers : List Peer} {busy : PeerId → Bool} {now : Instant}
  {transport : Loopback}

/-- Those who take part in a pass over some peers, by their identifiers. -/
theorem audience_ids_overPeers (distinct : (peers.map Peer.id).Nodup) :
    (overPeers fanout peers busy now transport).audience.map Candidate.id =
      (peers.filter (·.attends transport)).map Peer.id := by
  rw [audience_overPeers distinct, List.map_filterMap, ← List.filterMap_eq_map,
    List.filterMap_filter]
  apply List.filterMap_congr
  intro peer _
  rw [Candidate.ofPeer?, ← Peer.reachable, Peer.attends]
  cases peer.reachable transport <;> cases peer.client <;> rfl

/-- The figures of those who take part come to those of the peers that are served. -/
theorem sum_figureOf (distinct : (peers.map Peer.id).Nodup) (figure : Receiver → Nat) :
    let pass := overPeers fanout peers busy now transport
    (pass.audience.map fun own => pass.figureOf figure own.id).sum =
      ((peers.filter fun peer => !busy peer.id && peer.attends transport).map fun peer =>
        figure (pass.result.1.directory.receiverOf peer.id)).sum := by
  intro pass
  have byId : pass.audience.map (fun own => pass.figureOf figure own.id) =
      (peers.filter (·.attends transport)).map fun peer => pass.figureOf figure peer.id := by
    have ids : pass.audience.map Candidate.id =
        (peers.filter (·.attends transport)).map Peer.id := audience_ids_overPeers distinct
    have figures := congrArg (List.map (pass.figureOf figure)) ids
    rwa [List.map_map, List.map_map] at figures
  rw [byId, ← List.filter_filter]
  induction peers.filter (·.attends transport) with
  | nil => rfl
  | cons peer rest ih =>
    have same : pass.busy peer.id = busy peer.id := rfl
    rw [List.map_cons, List.sum_cons, ih, figureOf, same, List.filter_cons]
    cases busy peer.id with
    | true => exact Nat.zero_add _
    | false => rfl

/-- Each of the peers that are served keeps its count of all out-of-order numbers. -/
theorem outOfOrder_overPeers (distinct : (peers.map Peer.id).Nodup) {peer : Peer}
    (served : peer ∈ peers.filter fun peer => !busy peer.id && peer.attends transport) :
    let pass := overPeers fanout peers busy now transport
    ∃ client data, peer.client = some client ∧
      pass.result.1.directory.client? peer.id = some data ∧
      data.receiver.outOfOrderTotal =
        client.receiver.outOfOrderTotal + UInt64.ofNat data.receiver.outOfOrderLastPass := by
  intro pass
  obtain ⟨among, takesPart⟩ := List.mem_filter.mp served
  rw [Bool.and_eq_true, Peer.attends, Bool.and_eq_true] at takesPart
  obtain ⟨unoccupied, reached, given⟩ := takesPart
  obtain ⟨client, known⟩ := Option.isSome_iff_exists.mp given
  have present : Candidate.of peer client ∈ pass.audience :=
    (mem_audience_overPeers distinct).mpr ⟨peer, among, client, reached, known, rfl⟩
  have found : pass.directory.find? peer.id = some peer :=
    (find?_overPeers distinct).mpr ⟨among, rfl⟩
  have free : pass.busy (Candidate.of peer client).id = false :=
    (Bool.not_eq_true' _).mp unoccupied
  obtain ⟨data, left, grown⟩ := (proper_overPeers distinct).outOfOrder_result present free
    (client?_of_found found known)
  exact ⟨client, data, known, left, grown⟩

end Peers

end Pass

/-- The three books of a pass agree. The counters have the receivers that were served; of what was
sent they have the segments, the identity packets and the bytes, and no failure; of the rest they
have what the figures of those who were served come to, which have the segments as well. All
links together have grown by the bytes with which what was sent is written, and each who was
served has added to its count of all out-of-order numbers those of this pass. -/
theorem accounts_of_pass (fanout : Fanout) {peers : List Peer}
    (distinct : (peers.map Peer.id).Nodup) (busy : PeerId → Bool) (now : Instant)
    (transport : Loopback) :
    let after :=
      (fanout.pass (peers.map Peer.id) busy now (Directory.ofPeers peers) transport).1
    let mail := (Pass.overPeers fanout peers busy now transport).mail
    let sent := mail.map Parcel.packet
    let written := (sent.map fun packet => (OutboundPacket.format.write packet).length).sum
    let served := peers.filter fun peer => !busy peer.id && peer.attends transport
    let sumOfServed := fun figure : Receiver → Nat =>
      (served.map fun peer => figure (after.directory.receiverOf peer.id)).sum
    (after.transport = transport.deliverAll mail ∧
      ∀ parcel ∈ mail, transport.hasActiveAddress parcel.destination = true) ∧
    after.counters.listeners = UInt64.ofNat served.length ∧
    after.counters.avatarsSent =
      UInt64.ofNat (OutboundPacket.total OutboundPacket.segmentCount sent) ∧
    OutboundPacket.total OutboundPacket.segmentCount sent = sumOfServed Receiver.sentLastPass ∧
    after.counters.heldBack = UInt64.ofNat (sumOfServed Receiver.heldBackLastPass) ∧
    after.counters.skipped = UInt64.ofNat (sumOfServed Receiver.skippedLastPass) ∧
    after.counters.outOfOrder = UInt64.ofNat (sumOfServed Receiver.outOfOrderLastPass) ∧
    after.counters.identityPackets =
      UInt64.ofNat (OutboundPacket.total OutboundPacket.introductionCount sent) ∧
    after.counters.bytesSent = UInt64.ofNat written ∧
    after.transport.totalBytes = transport.totalBytes + UInt64.ofNat written ∧
    after.counters.sendFailures = 0 ∧
    ∀ peer ∈ served, ∃ client data, peer.client = some client ∧
      after.directory.client? peer.id = some data ∧
      data.receiver.outOfOrderTotal =
        client.receiver.outOfOrderTotal + UInt64.ofNat data.receiver.outOfOrderLastPass := by
  intro after mail sent written served sumOfServed
  let pass := Pass.overPeers fanout peers busy now transport
  have proper : pass.Proper := Pass.proper_overPeers distinct
  have booked {own : Candidate} (present : own ∈ pass.audience) := proper.booked_turn present
  have sums (figure : Receiver → Nat) :
      (pass.audience.map fun own => pass.figureOf figure own.id).sum = sumOfServed figure :=
    Pass.sum_figureOf distinct figure
  have totals (measure : OutboundPacket → Nat) : OutboundPacket.total measure sent =
      (pass.audience.map fun own => OutboundPacket.total measure (pass.packetsOf own)).sum :=
    pass.total_packets measure
  have active : ∀ parcel ∈ mail, transport.hasActiveAddress parcel.destination = true :=
    fun parcel listed => proper.active_of_mail listed
  have handed : after.transport = transport.deliverAll mail := proper.transport_result
  have entered {field : Counters → UInt64} {amount : Candidate → Nat}
      (zero : field Counters.zero = 0)
      (add : ∀ first second, field (Counters.add first second) = field first + field second)
      (each : ∀ own ∈ pass.audience, field (pass.countsOf own) = UInt64.ofNat (amount own)) :
      field after.counters = UInt64.ofNat (pass.audience.map amount).sum :=
    proper.counter_result ⟨zero, add⟩ each
  refine ⟨⟨handed, active⟩, ?listeners, ?avatarsSent, ?sent, ?heldBack, ?skipped, ?outOfOrder,
    ?identityPackets, ?bytesSent, ?totalBytes, ?sendFailures, ?outOfOrderTotal⟩
  case listeners =>
    have count : served.length = sumOfServed fun _ => 1 := by simp [sumOfServed]
    rw [count, ← sums fun _ => 1]
    exact entered rfl (fun _ _ => rfl) fun own present => (booked present).listeners
  case avatarsSent =>
    rw [totals]
    exact entered rfl (fun _ _ => rfl) fun own present => (booked present).avatarsSent
  case sent =>
    rw [totals, ← sums]
    exact congrArg List.sum (List.map_congr_left fun own present => (booked present).sent)
  case heldBack =>
    rw [← sums]
    exact entered rfl (fun _ _ => rfl) fun own present => (booked present).heldBack
  case skipped =>
    rw [← sums]
    exact entered rfl (fun _ _ => rfl) fun own present => (booked present).skipped
  case outOfOrder =>
    rw [← sums]
    exact entered rfl (fun _ _ => rfl) fun own present => (booked present).outOfOrder
  case identityPackets =>
    rw [totals]
    exact entered rfl (fun _ _ => rfl) fun own present => (booked present).identityPackets
  case bytesSent =>
    refine Eq.trans ?_ (congrArg UInt64.ofNat (totals fun packet =>
      (OutboundPacket.format.write packet).length).symm)
    exact entered rfl (fun _ _ => rfl) fun own present => (booked present).bytesSent
  case totalBytes =>
    rw [handed, transport.totalBytes_deliverAll active]
    rfl
  case sendFailures =>
    have nothing : (pass.audience.map fun _ => 0).sum = 0 := by simp
    have failures := @entered Counters.sendFailures (fun _ => 0) rfl (fun _ _ => rfl)
      fun own present => (booked present).sendFailures
    rwa [nothing] at failures
  case outOfOrderTotal => exact fun peer listed => Pass.outOfOrder_overPeers distinct listed

/-- Two agents in one place, each of which has sent an update, are served and sent one segment
each; the links have grown by the bytes that were counted. -/
theorem accounts_of_two :
    let client : Client := { Client.new default with sender := Sender.new.accept 1 }
    let first := (Peer.new (PeerId.ofNat 1) .agent 1).withClient client
    let second := (Peer.new (PeerId.ofNat 2) .agent 2).withClient client
    let transport := ((Loopback.new 0).setAddress first.id true).setAddress second.id true
    let fanout := Fanout.ofSeed ⟨5000, 60, 0, 0⟩ 0
    let after := (fanout.pass ([first, second].map Peer.id) (fun _ => false) 0
      (Directory.ofPeers [first, second]) transport).1
    after.counters.listeners = 2 ∧ after.counters.avatarsSent = 2 ∧
      after.counters.bytesSent = after.transport.totalBytes - transport.totalBytes ∧
      (after.directory.receiverOf first.id).sentLastPass = 1 := by
  intro client first second transport fanout after
  have distinct : ([first, second].map Peer.id).Nodup := by decide +kernel
  obtain ⟨-, listeners, avatarsSent, sent, -, -, -, -, bytesSent, totalBytes, -⟩ :=
    accounts_of_pass fanout distinct (fun _ => false) 0 transport
  refine ⟨listeners.trans ?_, avatarsSent.trans ?_, ?_, ?_⟩
  · decide +kernel
  · decide +kernel
  · rw [bytesSent, totalBytes, UInt64.add_comm, UInt64.add_sub_cancel]
  · decide +kernel

end AvatarRelay
