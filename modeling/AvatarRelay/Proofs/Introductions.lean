/-
# Introductions

Which identities a pass sends of one peer to another, where an unchanged one is never sent
again by chance. A receiver that considers a sender is sent the sender's identity once, if it
was not introduced to the sender before or the identity is stamped later than the pass
before; and from then on the sender counts as introduced to it.
-/

import AvatarRelay.Proofs.Bubbles
import AvatarRelay.Proofs.Orders

namespace AvatarRelay

namespace OutboundPacket

def identityOf (avatar : PeerId) : OutboundPacket → Option Identity
  | avatarIdentity about identity => if about = avatar then some identity else none
  | bulkAvatarData _ | killAvatar .. => none

end OutboundPacket

def Parcel.identitiesOf (mail : List Parcel) (receiver sender : PeerId) : List Identity :=
  (packetsTo receiver mail).filterMap (OutboundPacket.identityOf sender)

/-- Two candidates hear each other: they are different, neither ignores the other, and no
bubble silences them. -/
def Candidate.hears (own other : Candidate) : Bool :=
  !own.apart other && !own.muted other

namespace Peer

def identity? (peer : Peer) : Option Identity :=
  peer.avatar?.bind Avatar.identity

def knows (peer : Peer) (other : PeerId) : Bool :=
  peer.client.any (·.receiver.introduced.contains other)

end Peer

namespace Directory

variable (directory : Directory)

def identity? (id : PeerId) : Option Identity :=
  (directory.find? id).bind Peer.identity?

/-- When the identity of a connected peer last changed, if it was ever set. -/
def identityChanged? (id : PeerId) : Option Instant :=
  (directory.find? id).bind (·.sender.identityChanged)

def knows (receiver sender : PeerId) : Bool :=
  (directory.find? receiver).any (·.knows sender)

end Directory

theorem Candidate.identityChangedSince_eq (candidate : Candidate) (lastPass : Option Instant) :
    candidate.identityChangedSince lastPass =
      candidate.sender.identityChanged.any fun changed => lastPass.all (· < changed) := by
  unfold identityChangedSince
  cases candidate.sender.identityChanged <;> cases lastPass <;> rfl

theorem Gain.identityOf_introductions (gain : Gain) (other : Candidate) (avatar : PeerId) :
    (gain.introductions other).filterMap (OutboundPacket.identityOf avatar) =
      if other.id = avatar then gain.identity.toList else [] := by
  rw [introductions]
  cases gain.identity with
  | none => simp
  | some identity => by_cases here : other.id = avatar <;> simp [OutboundPacket.identityOf, here]

/-- Visits to others add no identity of a candidate. -/
theorem Gain.flatMap_identity_of_not_mem (gains : Candidate → Gain) {others : List Candidate}
    {avatar : PeerId} (absent : avatar ∉ others.map Candidate.id) :
    (others.flatMap fun other =>
      if other.id = avatar then (gains other).identity.toList else []) = [] := by
  rw [List.flatMap_eq_nil_iff]
  intro other listed
  exact if_neg fun same : other.id = avatar => absent (same ▸ List.mem_map_of_mem listed)

theorem Receiver.contains_introduced_absorb (receiver : Receiver) (other : Candidate)
    (gain : Gain) : (receiver.absorb other gain).introduced.contains other.id =
      (receiver.introduced.contains other.id || gain.introduced) := by
  rw [absorb]
  cases gain.introduced <;> simp

namespace Visit

variable (context : PassContext) (own other : Candidate) (visit : Visit)

theorem introduced_gain :
    (visit.gain context own other).introduced =
      (!context.busy other.id && own.hears other && other.avatar.identity.isSome) := by
  rw [gain, Candidate.hears]
  cases own.apart other <;> cases context.busy other.id <;> cases own.muted other <;>
    cases visit.admits context own other <;> rfl

/-- Without chance, the identity of a candidate that is heard goes out if it is the first
time, or if the identity changed after the pass before. -/
theorem identity_gain (never : context.settings.identityProbability.numEq 0 = true) :
    (visit.gain context own other).identity =
      if !context.busy other.id && own.hears other &&
          (!visit.receiver.introduced.contains other.id ||
            other.identityChangedSince context.lastPass) then
        other.avatar.identity
      else none := by
  have due : (identityDue context other (visit.receiver.introduced.contains other.id)
      visit.random).1 = _ := identityDue_of_never never _ _
  rw [gain, Candidate.hears, ← due]
  cases own.apart other <;> cases context.busy other.id <;> cases own.muted other <;>
    cases visit.admits context own other <;> rfl

/-- After its visits a receiver was introduced to a candidate if it was so before, or if it
has heard the candidate and the candidate has an identity. -/
theorem contains_introduced_foldl {others : List Candidate} {other : Candidate}
    (distinct : (others.map Candidate.id).Nodup) (listed : other ∈ others) :
    (others.foldl (next context own) visit).receiver.introduced.contains other.id =
      (visit.receiver.introduced.contains other.id ||
        (!context.busy other.id && own.hears other && other.avatar.identity.isSome)) := by
  obtain ⟨earlier, later, split⟩ := List.append_of_mem listed
  rw [split, List.foldl_append, List.foldl_cons,
    contains_introduced_foldl_of_not_mem _ _ _ _ (Candidate.not_mem_later_of_split distinct split),
    next_eq_absorb, absorb, Receiver.contains_introduced_absorb, introduced_gain,
    contains_introduced_foldl_of_not_mem _ _ _ _ (Candidate.not_mem_of_split distinct split)]

@[simp]
theorem introduced_settled (now : Instant) :
    (visit.settled now).introduced = visit.receiver.introduced := by
  unfold settled
  cases visit.farthest <;> cases visit.batch.isEmpty <;> rfl

theorem identityOf_packets (avatar : PeerId) :
    visit.packets.filterMap (OutboundPacket.identityOf avatar) =
      visit.identities.filterMap (OutboundPacket.identityOf avatar) := by
  rw [packets, List.filterMap_append]
  cases visit.batch.isEmpty <;> simp [OutboundPacket.identityOf]

end Visit

namespace Pass

variable (pass : Pass)

/-- One peer considers another: both take part and are free, and they hear each other. -/
def considers (receiver sender : PeerId) : Bool :=
  pass.audience.any fun own => own.id = receiver && !pass.busy own.id &&
    pass.audience.any fun other => other.id = sender && !pass.busy other.id && own.hears other

/-- One peer is introduced to another: it considers a peer that has an identity. -/
def introduces (receiver sender : PeerId) : Bool :=
  pass.considers receiver sender && (pass.directory.identity? sender).isSome

/-- The identity of a peer changed after the pass before, or was set before the first pass. -/
def renews (sender : PeerId) : Bool :=
  (pass.directory.identityChanged? sender).any fun changed =>
    pass.fanout.lastPass.all (· < changed)

variable {pass}

/-- Nobody is considered who does not take part, or by one who does not or is busy. -/
theorem takePart_of_considers {receiver sender : PeerId}
    (considered : pass.considers receiver sender = true) :
    receiver ∈ pass.audience.map Candidate.id ∧ pass.busy receiver = false ∧
      sender ∈ pass.audience.map Candidate.id := by
  simp only [considers, List.any_eq_true, Bool.and_eq_true, decide_eq_true_eq,
    Bool.not_eq_true'] at considered
  obtain ⟨own, present, ⟨rfl, free⟩, other, among, ⟨rfl, -⟩, -⟩ := considered
  exact ⟨List.mem_map_of_mem present, free, List.mem_map_of_mem among⟩

theorem considers_eq_false {receiver sender : PeerId}
    (apart : receiver ∉ pass.audience.map Candidate.id ∨ pass.busy receiver = true ∨
      sender ∉ pass.audience.map Candidate.id) : pass.considers receiver sender = false := by
  rw [Bool.eq_false_iff]
  intro considered
  obtain ⟨receives, free, sends⟩ := takePart_of_considers considered
  rcases apart with absent | occupied | absent
  · exact absent receives
  · exact Bool.false_ne_true (free.symm.trans occupied)
  · exact absent sends

theorem knows_of_known {own : Candidate} {client : Client}
    (known : pass.directory.client? own.id = some client) (sender : PeerId) :
    pass.directory.knows own.id sender = client.receiver.introduced.contains sender := by
  obtain ⟨peer, found, given⟩ := Option.bind_eq_some_iff.mp known
  rw [Directory.knows, found, Option.any_some, Peer.knows, given, Option.any_some]

namespace Proper

variable (proper : pass.Proper)

include proper

theorem identity_of_present {own : Candidate} (present : own ∈ pass.audience) :
    pass.directory.identity? own.id = own.avatar.identity ∧
      pass.directory.identityChanged? own.id = own.sender.identityChanged := by
  obtain ⟨peer, client, found, -, -, known, rfl⟩ := proper.mem_audience.mp present
  have here : pass.directory.find? (Candidate.of peer client).id = some peer := found
  rw [Directory.identity?, Directory.identityChanged?, here, Option.bind_some, Option.bind_some,
    Peer.identity?, Peer.avatar?, Peer.sender_of_client known, known]
  exact ⟨rfl, rfl⟩

theorem considers_eq {own other : Candidate} (present : own ∈ pass.audience)
    (among : other ∈ pass.audience) :
    pass.considers own.id other.id =
      (!pass.busy own.id && (!pass.busy other.id && own.hears other)) := by
  rw [Bool.eq_iff_iff, Bool.and_eq_true, Bool.and_eq_true]
  simp only [considers, List.any_eq_true, Bool.and_eq_true, decide_eq_true_eq]
  constructor
  · rintro ⟨first, presentToo, ⟨same, free⟩, second, amongToo, ⟨sameOther, unused⟩, heard⟩
    obtain rfl := proper.eq_of_id_eq presentToo present same
    obtain rfl := proper.eq_of_id_eq amongToo among sameOther
    exact ⟨free, unused, heard⟩
  · rintro ⟨free, unused, heard⟩
    exact ⟨own, present, ⟨rfl, free⟩, other, among, ⟨rfl, unused⟩, heard⟩

theorem identityOf_visit_eq (own : Candidate) (receiver : Receiver) (avatar : PeerId) :
    (pass.visit own receiver).packets.filterMap (OutboundPacket.identityOf avatar) =
      pass.audience.flatMap fun other =>
        if other.id = avatar then (pass.gain own receiver other).identity.toList else [] := by
  rw [Visit.identityOf_packets, proper.visit_eq_absorbAll, Visit.absorbAll_eq,
    show (pass.opening own receiver).identities = [] from rfl, List.nil_append,
    List.filterMap_flatMap]
  simp only [Gain.identityOf_introductions]

theorem identityOf_visit (own : Candidate) (receiver : Receiver) {other : Candidate}
    (among : other ∈ pass.audience) :
    (pass.visit own receiver).packets.filterMap (OutboundPacket.identityOf other.id) =
      (pass.gain own receiver other).identity.toList := by
  obtain ⟨earlier, later, split⟩ := List.append_of_mem among
  have before := Candidate.not_mem_of_split proper.nodup_audience split
  have after := Candidate.not_mem_later_of_split proper.nodup_audience split
  rw [proper.identityOf_visit_eq, split, List.flatMap_append, List.flatMap_cons,
    Gain.flatMap_identity_of_not_mem _ before, Gain.flatMap_identity_of_not_mem _ after,
    if_pos rfl, List.nil_append, List.append_nil]

/-- The identity of a candidate goes out, where chance plays no part in it, if the receiver
considers it and was not introduced to it before, or the identity changed since. -/
theorem identity_gain (never : pass.fanout.settings.identityProbability.numEq 0 = true)
    (own : Candidate) (receiver : Receiver) {other : Candidate} (among : other ∈ pass.audience) :
    (pass.gain own receiver other).identity =
      if !pass.busy other.id && own.hears other &&
          (!receiver.introduced.contains other.id ||
            other.identityChangedSince pass.fanout.lastPass) then
        other.avatar.identity
      else none := by
  rw [← proper.introduced_visitBefore own receiver among]
  exact Visit.identity_gain pass.context own other _ never

/-- The identities that a pass brings of one peer to another, where chance plays no part in
it: the one that the sender has, if the receiver considers the sender and does not know it, or
the identity was renewed. -/
theorem identitiesOf_mail (never : pass.fanout.settings.identityProbability.numEq 0 = true)
    (receiver sender : PeerId) :
    Parcel.identitiesOf pass.mail receiver sender =
      if pass.considers receiver sender && (!pass.directory.knows receiver sender ||
          pass.renews sender) then
        (pass.directory.identity? sender).toList
      else [] := by
  rw [Parcel.identitiesOf]
  by_cases receives : receiver ∈ pass.audience.map Candidate.id
  · obtain ⟨own, present, rfl⟩ := List.mem_map.mp receives
    obtain ⟨client, known⟩ := proper.client?_of_present present
    rw [proper.packetsTo_mail present]
    cases occupied : pass.busy own.id with
    | true =>
      rw [packetsOf_of_busy occupied, considers_eq_false (Or.inr (Or.inl occupied))]
      rfl
    | false =>
      rw [packetsOf_of_known occupied known]
      by_cases sends : sender ∈ pass.audience.map Candidate.id
      · obtain ⟨other, among, rfl⟩ := List.mem_map.mp sends
        obtain ⟨identity, changed⟩ := proper.identity_of_present among
        rw [proper.identityOf_visit own client.receiver among,
          proper.identity_gain never own client.receiver among, proper.considers_eq present among,
          Candidate.identityChangedSince_eq, knows_of_known known, renews, identity, changed,
          occupied, Bool.not_false, Bool.true_and]
        split <;> rfl
      · rw [proper.identityOf_visit_eq, Gain.flatMap_identity_of_not_mem _ sends,
          considers_eq_false (Or.inr (Or.inr sends))]
        rfl
  · rw [packetsTo_mail_of_absent receives, considers_eq_false (Or.inl receives)]
    rfl

/-- Whom a served receiver knows after its visits it knew before, or was introduced to. -/
theorem contains_introduced_visit {own : Candidate} (present : own ∈ pass.audience)
    (free : pass.busy own.id = false) (receiver : Receiver) (sender : PeerId) :
    (pass.visit own receiver).receiver.introduced.contains sender =
      (receiver.introduced.contains sender || pass.introduces own.id sender) := by
  have prepared := congrArg (Std.ExtTreeSet.contains · sender)
    (receiver.prepare_keeps pass.context.settings.controller pass.context.now).2.1
  by_cases sends : sender ∈ pass.audience.map Candidate.id
  · obtain ⟨other, among, rfl⟩ := List.mem_map.mp sends
    refine (Visit.contains_introduced_foldl _ _ _ proper.nodup_audience among).trans ?_
    refine congrArg₂ or prepared ?_
    rw [introduces, proper.considers_eq present among, free,
      (proper.identity_of_present among).1]
    rfl
  · rw [introduces, considers_eq_false (Or.inr (Or.inr sends)), Bool.false_and, Bool.or_false]
    exact (Visit.contains_introduced_foldl_of_not_mem _ _ _ _ sends).trans prepared

/-- Whom a peer knows after a pass it knew before, or was introduced to in the pass. -/
theorem knows_result (receiver sender : PeerId) :
    pass.result.1.directory.knows receiver sender =
      (pass.directory.knows receiver sender || pass.introduces receiver sender) := by
  -- One who is not served is not introduced to anyone.
  have quiet (unserved : ∀ peer client, pass.directory.find? receiver = some peer →
      peer.client = some client → pass.serves peer ≠ true) :
      pass.introduces receiver sender = false := by
    rw [introduces, Bool.and_eq_false_iff, Bool.eq_false_iff]
    left
    intro considered
    obtain ⟨receives, free, -⟩ := takePart_of_considers considered
    obtain ⟨own, present, rfl⟩ := List.mem_map.mp receives
    obtain ⟨peer, client, found, known, rfl, served⟩ := proper.served_of_present present free
    exact unserved peer client found known served
  rw [Directory.knows, Directory.knows, proper.find?_result]
  cases found : pass.directory.find? receiver with
  | none =>
    rw [quiet fun peer client there => by rw [found] at there; cases there]
    rfl
  | some peer =>
    obtain rfl : peer.id = receiver := proper.keyed found
    have only {other : Peer} (there : pass.directory.find? peer.id = some other) : peer = other :=
      Option.some.inj (found.symm.trans there)
    obtain ⟨change, passed, changes⟩ := pass.passed_spec peer
    rw [Option.map_some, Option.any_some, Option.any_some, passed, Peer.knows, Peer.knows,
      Peer.client_mapClient]
    cases known : peer.client with
    | none =>
      rw [quiet fun other client there given => by rw [← only there, known] at given; cases given]
      rfl
    | some client =>
      rw [Option.map_some, Option.any_some, Option.any_some, (changes client).2]
      cases served : pass.serves peer with
      | false =>
        rw [if_neg Bool.false_ne_true, quiet fun other client there _ => by
          rw [← only there, served]; exact Bool.false_ne_true, Bool.or_false]
      | true =>
        obtain ⟨present, free⟩ := proper.present_of_served found known served
        rw [if_pos rfl, Visit.introduced_settled]
        exact proper.contains_introduced_visit present free client.receiver sender

/-- A pass leaves identities as they are. -/
theorem identity?_result (id : PeerId) :
    pass.result.1.directory.identity? id = pass.directory.identity? id := by
  rw [Directory.identity?, Directory.identity?, proper.find?_result]
  cases pass.directory.find? id with
  | none => rfl
  | some peer =>
    rw [Option.map_some, Option.bind_some, Option.bind_some, Peer.identity?, Peer.identity?,
      Peer.avatar?, Peer.avatar?, pass.avatar_passed peer, Option.bind_map]
    congr 1
    funext avatar
    rw [Function.comp_apply]
    split <;> rfl

theorem identityChanged?_result (id : PeerId) :
    pass.result.1.directory.identityChanged? id = pass.directory.identityChanged? id := by
  rw [Directory.identityChanged?, Directory.identityChanged?, proper.find?_result]
  cases pass.directory.find? id with
  | none => rfl
  | some peer => rw [Option.map_some, Option.bind_some, Option.bind_some, pass.sender_passed]

end Proper

end Pass

end AvatarRelay
