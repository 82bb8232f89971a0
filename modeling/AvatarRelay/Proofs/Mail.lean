/-
# Mail

What a pass or a tick hands to the transport, as a list of parcels in the order of
sending. Handing mail over never changes who can be reached, and what it leaves in
the record of one peer depends on the parcels for that peer alone.
-/

import AvatarRelay.Loopback
import AvatarRelay.Proofs.Directory

namespace AvatarRelay

-- The zero of a sum is that of the numerals, whatever other instances are in scope.
attribute [local instance (2000)] Zero.ofOfNat0

namespace UInt64

theorem ofNat_toNat_bool (bit : Bool) : UInt64.ofNat bit.toNat = bit.toUInt64 := by
  cases bit <;> rfl

theorem sum_perm {first second : List UInt64} (same : first.Perm second) :
    first.sum = second.sum :=
  same.foldr_eq' (fun _ _ _ _ _ => by ac_rfl) 0

end UInt64

namespace OutboundPacket

def totalLength (packets : List OutboundPacket) : Nat :=
  (packets.map fun packet => (format.write packet).length).sum

theorem totalLength_append (first second : List OutboundPacket) :
    totalLength (first ++ second) = totalLength first + totalLength second := by
  rw [totalLength, List.map_append, List.sum_append, totalLength, totalLength]

def forwards (packet : OutboundPacket) (sender : PeerId) : Bool :=
  match packet with
  | bulkAvatarData batch => batch.contains sender
  | avatarIdentity .. | killAvatar .. => false

end OutboundPacket

structure Parcel where
  destination : PeerId
  packet : OutboundPacket
  deriving DecidableEq

namespace Parcel

def addressed (destination : PeerId) (packets : List OutboundPacket) : List Parcel :=
  packets.map fun packet => ⟨destination, packet⟩

def packetsTo (id : PeerId) (mail : List Parcel) : List OutboundPacket :=
  (mail.filter (·.destination = id)).map Parcel.packet

def forwards (mail : List Parcel) (receiver sender : PeerId) : Bool :=
  (packetsTo receiver mail).any (·.forwards sender)

theorem mem_packetsTo {id : PeerId} {mail : List Parcel} {packet : OutboundPacket} :
    packet ∈ packetsTo id mail ↔ ⟨id, packet⟩ ∈ mail := by
  simp only [packetsTo, List.mem_map, List.mem_filter, decide_eq_true_eq]
  constructor
  · rintro ⟨⟨destination, packet⟩, ⟨listed, rfl⟩, rfl⟩
    exact listed
  · intro listed
    exact ⟨⟨id, packet⟩, ⟨listed, rfl⟩, rfl⟩

theorem forwards_iff {mail : List Parcel} {receiver sender : PeerId} :
    forwards mail receiver sender = true ↔
      ∃ batch, ⟨receiver, .bulkAvatarData batch⟩ ∈ mail ∧
        ∃ segment ∈ batch.segments, segment.sender = sender := by
  simp only [forwards, List.any_eq_true, mem_packetsTo]
  constructor
  · rintro ⟨packet, sent, forwarded⟩
    cases packet with
    | bulkAvatarData batch =>
      obtain ⟨segment, listed, same⟩ := List.any_eq_true.mp forwarded
      exact ⟨batch, sent, segment, listed, of_decide_eq_true same⟩
    | avatarIdentity => cases forwarded
    | killAvatar => cases forwarded
  · rintro ⟨batch, sent, segment, listed, same⟩
    exact ⟨_, sent, List.any_eq_true.mpr ⟨segment, listed, decide_eq_true same⟩⟩

@[simp]
theorem packetsTo_nil (id : PeerId) : packetsTo id [] = [] := rfl

theorem packetsTo_append (id : PeerId) (first second : List Parcel) :
    packetsTo id (first ++ second) = packetsTo id first ++ packetsTo id second := by
  simp [packetsTo]

theorem packetsTo_addressed (id destination : PeerId) (packets : List OutboundPacket) :
    packetsTo id (addressed destination packets) =
      if destination = id then packets else [] := by
  by_cases here : destination = id
  · simp [packetsTo, addressed, here, List.filter_map, Function.comp_def]
  · simp [packetsTo, addressed, here]

section Rounds

variable {Item : Type} (destination : Item → PeerId) (packets : Item → List OutboundPacket)
  {items : List Item}

/-- Nobody is sent anything in a round that goes to others. -/
theorem packetsTo_flatMap_of_not_mem {id : PeerId} (absent : id ∉ items.map destination) :
    packetsTo id (items.flatMap fun item => addressed (destination item) (packets item)) =
      [] := by
  induction items with
  | nil => rfl
  | cons first rest ih =>
    rw [List.map_cons, List.mem_cons, not_or] at absent
    rw [List.flatMap_cons, packetsTo_append, packetsTo_addressed, if_neg (Ne.symm absent.1),
      ih absent.2, List.append_nil]

/-- In a round that goes to different peers each is sent what it is due. -/
theorem packetsTo_flatMap {item : Item} (distinct : (items.map destination).Nodup)
    (listed : item ∈ items) :
    packetsTo (destination item)
        (items.flatMap fun item => addressed (destination item) (packets item)) =
      packets item := by
  induction items with
  | nil => cases listed
  | cons first rest ih =>
    obtain ⟨fresh, distinct⟩ := List.nodup_cons.mp distinct
    rw [List.flatMap_cons, packetsTo_append, packetsTo_addressed]
    rcases List.mem_cons.mp listed with rfl | later
    · rw [if_pos rfl, packetsTo_flatMap_of_not_mem destination packets fresh, List.append_nil]
    · have apart : destination first ≠ destination item := by
        intro same
        exact fresh (same ▸ List.mem_map_of_mem later)
      rw [if_neg apart, ih distinct later, List.nil_append]

end Rounds

end Parcel

namespace Link

/-- The record after some packets were sent, of which no more than a limit are kept. -/
def record (limit : Nat) (link : Link) (packets : List OutboundPacket) : Link :=
  packets.foldl
    (fun link packet =>
      { link with
        sent := Loopback.trim limit (link.sent ++ [⟨packet, packet.encodedLength⟩])
        bytesSent := link.bytesSent + UInt64.ofNat packet.encodedLength })
    link

@[simp]
theorem record_nil (limit : Nat) (link : Link) : link.record limit [] = link := rfl

theorem record_append (limit : Nat) (link : Link) (first second : List OutboundPacket) :
    link.record limit (first ++ second) = (link.record limit first).record limit second :=
  List.foldl_append

@[simp]
theorem hasAddress_record (limit : Nat) (link : Link) (packets : List OutboundPacket) :
    (link.record limit packets).hasAddress = link.hasAddress := by
  induction packets generalizing link with
  | nil => rfl
  | cons packet rest ih => exact ih _

theorem bytesSent_record (limit : Nat) (link : Link) (packets : List OutboundPacket) :
    (link.record limit packets).bytesSent =
      link.bytesSent + UInt64.ofNat (OutboundPacket.totalLength packets) := by
  induction packets generalizing link with
  | nil => exact (UInt64.add_zero _).symm
  | cons packet rest ih =>
    rw [OutboundPacket.totalLength, List.map_cons, List.sum_cons, UInt64.ofNat_add,
      ← UInt64.add_assoc]
    exact ih _

end Link

namespace Loopback

variable (transport : Loopback)

theorem link_insert (id other : PeerId) (entry : Link) :
    link { transport with links := transport.links.insert id entry } other =
      if other = id then entry else transport.link other := by
  simp only [link, PeerMap.getElem?_insert_eq]
  split <;> rfl

/-- Hands over a parcel; a refusal changes nothing. -/
def deliver (parcel : Parcel) : Loopback :=
  match transport.send parcel.destination parcel.packet with
  | .ok (_, transport) => transport
  | .error _ => transport

def deliverAll (mail : List Parcel) : Loopback :=
  mail.foldl deliver transport

theorem send_of_active {destination : PeerId} (packet : OutboundPacket)
    (active : transport.hasActiveAddress destination = true) :
    transport.send destination packet =
      .ok (packet.encodedLength, transport.deliver ⟨destination, packet⟩) := by
  have taken : (transport.link destination).hasAddress = true := active
  simp only [deliver, send, taken, if_true]

theorem send_of_inactive {destination : PeerId} (packet : OutboundPacket)
    (inactive : transport.hasActiveAddress destination = false) :
    transport.send destination packet = .error (.noActiveAddress destination) := by
  have refused : (transport.link destination).hasAddress = false := inactive
  simp only [send, refused, Bool.false_eq_true, if_false]

theorem deliver_of_inactive {parcel : Parcel}
    (inactive : transport.hasActiveAddress parcel.destination = false) :
    transport.deliver parcel = transport := by
  rw [deliver, send_of_inactive _ _ inactive]

/-- A parcel for a peer that can be reached goes into the record of that peer, and
into no other. -/
theorem link_deliver (parcel : Parcel) (id : PeerId) :
    (transport.deliver parcel).link id =
      if parcel.destination = id ∧ transport.hasActiveAddress id = true then
        (transport.link id).record transport.historyLimit [parcel.packet]
      else transport.link id := by
  obtain ⟨destination, packet⟩ := parcel
  cases active : transport.hasActiveAddress destination with
  | false =>
    rw [deliver_of_inactive _ active, if_neg]
    rintro ⟨rfl, reached⟩
    rw [active] at reached
    contradiction
  | true =>
    have taken : (transport.link destination).hasAddress = true := active
    simp only [deliver, send, taken, if_true, link_insert]
    by_cases here : id = destination
    · subst here
      simp [active, taken, Link.record]
    · simp [here, Ne.symm here]

@[simp]
theorem historyLimit_deliver (parcel : Parcel) :
    (transport.deliver parcel).historyLimit = transport.historyLimit := by
  cases active : transport.hasActiveAddress parcel.destination with
  | false => rw [deliver_of_inactive _ active]
  | true =>
    have taken : (transport.link parcel.destination).hasAddress = true := active
    simp only [deliver, send, taken, if_true]

@[simp]
theorem hasActiveAddress_deliver (parcel : Parcel) (id : PeerId) :
    (transport.deliver parcel).hasActiveAddress id = transport.hasActiveAddress id := by
  rw [hasActiveAddress, link_deliver]
  split
  · rw [Link.hasAddress_record]
    rfl
  · rfl

@[simp]
theorem deliverAll_nil : transport.deliverAll [] = transport := rfl

@[simp]
theorem deliverAll_cons (parcel : Parcel) (mail : List Parcel) :
    transport.deliverAll (parcel :: mail) = (transport.deliver parcel).deliverAll mail := rfl

theorem deliverAll_append (first second : List Parcel) :
    transport.deliverAll (first ++ second) =
      (transport.deliverAll first).deliverAll second :=
  List.foldl_append

/-- Mail never changes who can be reached. -/
@[simp]
theorem hasActiveAddress_deliverAll (mail : List Parcel) (id : PeerId) :
    (transport.deliverAll mail).hasActiveAddress id = transport.hasActiveAddress id := by
  induction mail generalizing transport with
  | nil => rfl
  | cons parcel rest ih => rw [deliverAll_cons, ih, hasActiveAddress_deliver]

/-- What mail leaves in the record of one peer: the packets for that peer in order,
if it can be reached, and nothing else. -/
theorem link_deliverAll (mail : List Parcel) (id : PeerId) :
    (transport.deliverAll mail).link id =
      if transport.hasActiveAddress id = true then
        (transport.link id).record transport.historyLimit (Parcel.packetsTo id mail)
      else transport.link id := by
  induction mail generalizing transport with
  | nil => simp
  | cons parcel rest ih =>
    rw [deliverAll_cons, ih, hasActiveAddress_deliver, historyLimit_deliver, link_deliver]
    by_cases active : transport.hasActiveAddress id = true
    · by_cases here : parcel.destination = id
      · have first : Parcel.packetsTo id (parcel :: rest) =
            [parcel.packet] ++ Parcel.packetsTo id rest := by
          simp [Parcel.packetsTo, here]
        rw [if_pos active, if_pos active, if_pos ⟨here, active⟩, first, Link.record_append]
      · simp [active, here, Parcel.packetsTo]
    · simp [active]

end Loopback

end AvatarRelay
