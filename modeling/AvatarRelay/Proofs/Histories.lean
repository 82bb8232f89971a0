/-
# Histories of links

What a transport keeps of a peer after any run of operations on it, told from the operations
alone: whether the peer has an address is what the latest change of it says, the history are the
latest of the packets that were accepted for the peer since it was last emptied, and the count of
bytes is that of all packets that were accepted since the peer was last forgotten.
-/

import Mathlib.Data.List.DropRight
import Mathlib.Data.List.Induction
import AvatarRelay.Proofs.Mail

namespace AvatarRelay

-- The zero of a sum is that of the numerals, whatever other instances are in scope.
attribute [local instance (2000)] Zero.ofOfNat0

namespace Loopback

inductive Operation
  | setAddress (peer : PeerId) (hasAddress : Bool)
  | forget (peer : PeerId)
  | clearHistory
  | send (destination : PeerId) (packet : OutboundPacket)

/-- The transport after an operation; a packet that is refused changes nothing. -/
def next (transport : Loopback) : Operation → Loopback
  | .setAddress peer hasAddress => transport.setAddress peer hasAddress
  | .forget peer => transport.forget peer
  | .clearHistory => transport.clearHistory
  | .send destination packet => transport.deliver ⟨destination, packet⟩

def after (transport : Loopback) (operations : List Operation) : Loopback :=
  operations.foldl next transport

namespace Operation

def subject? : Operation → Option PeerId
  | setAddress peer _ | forget peer | send peer _ => some peer
  | clearHistory => none

def address? (peer : PeerId) : Operation → Option Bool
  | setAddress subject hasAddress => if subject = peer then some hasAddress else none
  | forget subject => if subject = peer then some false else none
  | clearHistory | send .. => none

def forgets (peer : PeerId) : Operation → Bool
  | forget subject => subject = peer
  | setAddress .. | clearHistory | send .. => false

def empties (peer : PeerId) : Operation → Bool
  | forget subject => subject = peer
  | clearHistory => true
  | setAddress .. | send .. => false

/-- The packets that are accepted in the operation for a peer that has an address or not. -/
def packets (peer : PeerId) (addressed : Bool) : Operation → List OutboundPacket
  | send destination packet => if addressed ∧ destination = peer then [packet] else []
  | setAddress .. | forget _ | clearHistory => []

end Operation

/-- A peer has an address after some operations: the latest one that says something about it
says so. -/
def addressed (peer : PeerId) (operations : List Operation) : Bool :=
  (operations.filterMap (·.address? peer)).getLast?.getD false

/-- The packets that are accepted for a peer in some operations that follow earlier ones. -/
def accepted (peer : PeerId) (earlier : List Operation) : List Operation → List OutboundPacket
  | [] => []
  | operation :: later =>
    operation.packets peer (addressed peer earlier) ++
      accepted peer (earlier ++ [operation]) later

/-- The packets that are accepted for a peer since the latest operation of some kind. -/
def acceptedSince (kind : Operation → Bool) (peer : PeerId) (operations : List Operation) :
    List OutboundPacket :=
  accepted peer (operations.rdropWhile fun operation => !kind operation)
    (operations.rtakeWhile fun operation => !kind operation)

/-- The latest of some packets, as many as a limit allows; zero allows all. -/
def latest (limit : Nat) (packets : List OutboundPacket) : List OutboundPacket :=
  if limit = 0 then packets else packets.rtake limit

end Loopback

namespace SentPacket

/-- What is kept of a packet: itself and its length as it is written. -/
def ofPacket (packet : OutboundPacket) : SentPacket :=
  ⟨packet, (OutboundPacket.format.write packet).length⟩

end SentPacket

namespace Loopback

/-- What was trimmed away before does not matter for the latest packets. -/
theorem trim_trim_append (limit : Nat) (first second : List SentPacket) :
    trim limit (trim limit first ++ second) = trim limit (first ++ second) := by
  by_cases unlimited : limit = 0
  · simp only [trim, if_pos unlimited]
  · simp only [trim, if_neg unlimited]
    have inside : first.length - limit ≤ first.length := Nat.sub_le _ _
    rw [← List.drop_append_of_le_length inside, List.drop_drop]
    congr 1
    simp only [List.length_drop, List.length_append]
    omega

theorem trim_nil (limit : Nat) : trim limit [] = [] := by
  simp [trim]

theorem trim_map (limit : Nat) (packets : List OutboundPacket) :
    trim limit (packets.map SentPacket.ofPacket) =
      (latest limit packets).map SentPacket.ofPacket := by
  unfold trim latest
  split
  · rfl
  · rw [List.rtake, List.map_drop, List.length_map]

end Loopback

namespace Link

/-- A trimmed history goes on as if all of it were there. -/
theorem sent_record {limit : Nat} {link : Link} {history : List SentPacket}
    (kept : link.sent = Loopback.trim limit history) (packets : List OutboundPacket) :
    (link.record limit packets).sent =
      Loopback.trim limit (history ++ packets.map SentPacket.ofPacket) := by
  induction packets generalizing link history with
  | nil => rw [record_nil, kept, List.map_nil, List.append_nil]
  | cons packet rest ih =>
    rw [List.map_cons, List.append_cons]
    refine ih ?_
    dsimp only
    rw [kept, Loopback.trim_trim_append]
    rfl

end Link

namespace Loopback

variable (transport : Loopback) (operation : Operation) (peer : PeerId)

theorem link_forget (subject : PeerId) :
    (transport.forget subject).link peer =
      if peer = subject then Link.new else transport.link peer := by
  simp only [link, forget, PeerMap.getElem?_erase_eq]
  split <;> rfl

theorem hasActiveAddress_setAddress (subject : PeerId) (hasAddress : Bool) :
    (transport.setAddress subject hasAddress).hasActiveAddress peer =
      if peer = subject then hasAddress else transport.hasActiveAddress peer := by
  simp only [hasActiveAddress, setAddress, link_insert]
  split <;> rfl

theorem hasActiveAddress_forget (subject : PeerId) :
    (transport.forget subject).hasActiveAddress peer =
      if peer = subject then false else transport.hasActiveAddress peer := by
  simp only [hasActiveAddress, link_forget]
  split <;> rfl

theorem link_clearHistory :
    transport.clearHistory.link peer = { transport.link peer with sent := [] } := by
  simp only [link, clearHistory, Std.ExtTreeMap.getElem?_map]
  cases transport.links[peer]? <;> rfl

/-- All that an operation does to the link of a peer. -/
theorem link_next :
    (transport.next operation).link peer =
      let received := operation.packets peer (transport.hasActiveAddress peer)
      let record := (transport.link peer).record transport.historyLimit received
      { hasAddress := (operation.address? peer).getD (transport.hasActiveAddress peer)
        sent := if operation.empties peer then [] else record.sent
        bytesSent := if operation.forgets peer then 0 else record.bytesSent } := by
  cases operation with
  | setAddress subject hasAddress =>
    simp only [next, setAddress, link_insert, Operation.address?, Operation.packets,
      Operation.empties, Operation.forgets, Link.record_nil, @eq_comm _ peer]
    split <;> next here => simp [here, hasActiveAddress]
  | forget subject =>
    simp only [next, link_forget, Operation.address?, Operation.packets, Operation.empties,
      Operation.forgets, Link.record_nil, @eq_comm _ peer]
    split <;> next here => simp [here, hasActiveAddress, Link.new]
  | clearHistory =>
    simp [next, link_clearHistory, Operation.address?, Operation.packets, Operation.empties,
      Operation.forgets, hasActiveAddress]
  | send destination packet =>
    simp only [next, link_deliver, Operation.address?, Operation.packets, Operation.empties,
      Operation.forgets, Option.getD_none, and_comm]
    split
    · next here =>
      have taken : (transport.link peer).hasAddress = true := here.2
      simp [here, Link.record, taken]
    · rfl

@[simp]
theorem historyLimit_next : (transport.next operation).historyLimit = transport.historyLimit := by
  cases operation with
  | setAddress | forget | clearHistory => rfl
  | send => exact historyLimit_deliver _ _

/-- An operation on one peer leaves the links of all others as they are. -/
theorem getElem?_links_next {subject : PeerId} (about : operation.subject? = some subject)
    (apart : peer ≠ subject) :
    (transport.next operation).links[peer]? = transport.links[peer]? := by
  cases operation with
  | setAddress _ _ =>
    cases about
    exact (PeerMap.getElem?_insert_eq _ _ _ _).trans (if_neg apart)
  | forget _ =>
    cases about
    exact (PeerMap.getElem?_erase_eq _ _ _).trans (if_neg apart)
  | clearHistory => cases about
  | send _ _ =>
    cases about
    simp only [next, deliver, send]
    split
    · next sent =>
      split at sent
      · cases sent
        exact (PeerMap.getElem?_insert_eq _ _ _ _).trans (if_neg apart)
      · cases sent
    · rfl

theorem after_concat (operations : List Operation) :
    transport.after (operations ++ [operation]) = (transport.after operations).next operation :=
  List.foldl_concat ..

@[simp]
theorem historyLimit_after (operations : List Operation) :
    (transport.after operations).historyLimit = transport.historyLimit := by
  induction operations generalizing transport with
  | nil => rfl
  | cons operation rest ih => exact (ih _).trans (historyLimit_next _ _)

section Spec

variable (operations : List Operation)

theorem addressed_concat :
    addressed peer (operations ++ [operation]) =
      (operation.address? peer).getD (addressed peer operations) := by
  simp only [addressed, List.filterMap_append, List.filterMap_cons, List.filterMap_nil]
  cases operation.address? peer with
  | none => simp
  | some hasAddress => simp

theorem accepted_concat (earlier : List Operation) :
    accepted peer earlier (operations ++ [operation]) =
      accepted peer earlier operations ++
        operation.packets peer (addressed peer (earlier ++ operations)) := by
  induction operations generalizing earlier with
  | nil => simp [accepted]
  | cons first rest ih =>
    rw [List.cons_append, accepted, ih, accepted, List.append_assoc, List.append_assoc,
      List.singleton_append]

/-- What is accepted in the latest operation comes last, unless it is of the kind to start with. -/
theorem acceptedSince_concat (kind : Operation → Bool) :
    acceptedSince kind peer (operations ++ [operation]) =
      if kind operation then []
      else acceptedSince kind peer operations ++
        operation.packets peer (addressed peer operations) := by
  unfold acceptedSince
  by_cases ends : kind operation = true
  · rw [if_pos ends, List.rtakeWhile_concat_neg _ _ _ (by simp [ends])]
    rfl
  · rw [if_neg ends, List.rtakeWhile_concat_pos _ _ _ (by simp [ends]),
      List.rdropWhile_concat_pos _ _ _ (by simp [ends]), accepted_concat,
      List.rdropWhile_append_rtakeWhile]

end Spec

/-- The link of a peer after operations on a new transport. -/
theorem link_after (limit : Nat) (operations : List Operation) :
    ((new limit).after operations).link peer =
      { hasAddress := addressed peer operations
        sent := trim limit
          ((acceptedSince (·.empties peer) peer operations).map SentPacket.ofPacket)
        bytesSent := UInt64.ofNat
          (OutboundPacket.totalLength (acceptedSince (·.forgets peer) peer operations)) } := by
  induction operations using List.reverseRecOn with
  | nil =>
    simp [after, link, new, Link.new, addressed, acceptedSince, accepted, trim_nil,
      OutboundPacket.totalLength]
  | append_singleton operations operation ih =>
    have active : ((new limit).after operations).hasActiveAddress peer =
        addressed peer operations :=
      congrArg Link.hasAddress ih
    have kept := congrArg Link.sent ih
    have bytes := congrArg Link.bytesSent ih
    rw [after_concat, link_next, historyLimit_after, active]
    dsimp only [new] at kept bytes ⊢
    rw [Link.sent_record kept, Link.bytesSent_record, bytes, addressed_concat,
      acceptedSince_concat, acceptedSince_concat, Link.mk.injEq]
    refine ⟨rfl, ?_, ?_⟩
    · split
      · exact (trim_nil limit).symm
      · rw [List.map_append]
    · split
      · rfl
      · rw [OutboundPacket.totalLength_append, UInt64.ofNat_add]

/-- In every run of operations on a new transport: a peer has an address if the latest change of it
says so. A packet for the peer is taken, and answered with the number of bytes that it is written
with, exactly when it has an address; otherwise the sending fails and changes nothing. The history
of the peer are the latest of the packets that were accepted since it was emptied, each with that
number, and the count of bytes is the sum of the numbers of all packets that were accepted since
the peer was forgotten, in the sixty-four bits that it has: exact while the sum is below 2 ^ 64. An
operation on another peer leaves its link as it is. -/
theorem history_of_run (limit : Nat) (operations : List Operation) (peer : PeerId) :
    let final := (new limit).after operations
    let bytes := ((acceptedSince (·.forgets peer) peer operations).map fun packet =>
      (OutboundPacket.format.write packet).length).sum
    final.hasActiveAddress peer = addressed peer operations ∧
    (∀ packet, final.send peer packet =
      if addressed peer operations then
        .ok ((OutboundPacket.format.write packet).length, final.next (.send peer packet))
      else .error (.noActiveAddress peer)) ∧
    (∀ packet, addressed peer operations = false → final.next (.send peer packet) = final) ∧
    final.sentTo peer =
      (latest limit (acceptedSince (·.empties peer) peer operations)).map (fun packet =>
        ⟨packet, (OutboundPacket.format.write packet).length⟩) ∧
    final.bytesSentTo peer = UInt64.ofNat bytes ∧
    (bytes < UInt64.size → (final.bytesSentTo peer).toNat = bytes) ∧
    ∀ operation subject, operation.subject? = some subject → peer ≠ subject →
      (final.next operation).links[peer]? = final.links[peer]? := by
  intro final bytes
  have linked := link_after peer limit operations
  have active : final.hasActiveAddress peer = addressed peer operations :=
    congrArg Link.hasAddress linked
  have counted : final.bytesSentTo peer = UInt64.ofNat bytes := congrArg Link.bytesSent linked
  refine ⟨active, fun packet => ?_, fun packet absent => ?_, ?_, counted, fun fits => ?_,
    fun operation subject => ?_⟩
  · split
    · next there => exact send_of_active _ packet (active.trans there)
    · next absent =>
      exact send_of_inactive _ packet (active.trans (Bool.eq_false_iff.mpr absent))
  · exact deliver_of_inactive _ (active.trans absent)
  · exact (congrArg Link.sent linked).trans (trim_map limit _)
  · rw [counted]
    exact UInt64.toNat_ofNat_of_lt' fits
  · exact getElem?_links_next final operation peer

/-- Of three packets, the second of which comes while there is no address, the last is in a
history of one. -/
example :
    let farewell avatar := OutboundPacket.killAvatar ⟨avatar⟩ .disconnected
    latest 1 (acceptedSince (·.empties ⟨1⟩) ⟨1⟩
      [.setAddress ⟨1⟩ true, .send ⟨1⟩ (farewell 2), .setAddress ⟨1⟩ false,
        .send ⟨1⟩ (farewell 3), .setAddress ⟨1⟩ true, .send ⟨1⟩ (farewell 4)]) = [farewell 4] := by
  decide

end Loopback

end AvatarRelay
