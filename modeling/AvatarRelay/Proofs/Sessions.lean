/-
# Pairs of sessions

Entries are kept by identifier, but they are about sessions. Beside a run stands the
record of what was forwarded from session to session; whenever a receiver is served, its
entries are those of that record. A receiver that still has entries of an earlier session
is owed a purge, and nobody is served before the purges that it owes.
-/

import AvatarRelay.Proofs.Memory

namespace AvatarRelay

namespace Relay

/-- The number that an operation forwards from one session to another, if it does: the
sender's latest. -/
def forwardedBy (relay : Relay) (receiver sender : SessionKey) : Operation →
    Option SequenceNumber
  | .tick order busy began _ =>
    let pass := relay.nextPass order busy began
    if Parcel.forwards pass.mail receiver.id sender.id then
      match pass.directory.findSession? receiver, pass.directory.findSession? sender with
      | some _, some peer => peer.latest
      | _, _ => none
    else none
  | _ => none

theorem forwardedBy_of_found (relay : Relay) {order : VisitOrder} {busy : SessionKey → Bool}
    {began ended : Instant} {receiver sender : Peer}
    (receives : (relay.nextPass order busy began).directory.find? receiver.id = some receiver)
    (sends : (relay.nextPass order busy began).directory.find? sender.id = some sender) :
    relay.forwardedBy receiver.key sender.key (.tick order busy began ended) =
      if Parcel.forwards (relay.nextPass order busy began).mail receiver.id sender.id
      then sender.latest else none := by
  simp only [forwardedBy, Directory.findSession?_key receives, Directory.findSession?_key sends]
  rfl

/-- Sessions that a tick forwards anything between are connected during its pass, and what it
forwards is the number of the sender. -/
theorem forwardedBy_tick {relay : Relay} {receiver sender : SessionKey}
    {order : VisitOrder} {busy : SessionKey → Bool} {began ended : Instant}
    {number : SequenceNumber}
    (forwarded : relay.forwardedBy receiver sender (.tick order busy began ended) = some number) :
    ∃ own peer, (relay.nextPass order busy began).directory.findSession? receiver = some own ∧
      (relay.nextPass order busy began).directory.findSession? sender = some peer ∧
      peer.latest = some number := by
  simp only [forwardedBy] at forwarded
  split at forwarded
  · split at forwarded
    · next own peer found foundOther => exact ⟨own, peer, found, foundOther, forwarded⟩
    · cases forwarded
  · cases forwarded

/-- The number that was last forwarded from one session to another in a run. -/
def lastForward (relay : Relay) (receiver sender : SessionKey) :
    List Operation → Option SequenceNumber
  | [] => none
  | operation :: rest =>
    ((relay.apply operation).lastForward receiver sender rest).or
      (relay.forwardedBy receiver sender operation)

theorem lastForward_concat (relay : Relay) (receiver sender : SessionKey)
    (operations : List Operation) (operation : Operation) :
    relay.lastForward receiver sender (operations ++ [operation]) =
      ((relay.run operations).forwardedBy receiver sender operation).or
        (relay.lastForward receiver sender operations) := by
  induction operations generalizing relay with
  | nil => exact Option.none_or.trans Option.or_none.symm
  | cons first rest ih =>
    rw [List.cons_append, lastForward, ih, lastForward, Option.or_assoc]
    rfl

/-- Entries agree with a record, with some events still to come: those of an earlier
session are owed a purge, and all others are the ones on record. -/
def Recorded (relay : Relay) (coming : List PeerEvent)
    (record : SessionKey → SessionKey → Option SequenceNumber) : Prop :=
  ∀ ⦃receiver sender : Peer⦄, relay.directory.find? receiver.id = some receiver →
    relay.directory.find? sender.id = some sender → receiver.id ≠ sender.id →
      (relay.Owes coming receiver.key sender.id ∧ record receiver.key sender.key = none) ∨
      (¬ relay.Owes coming receiver.key sender.id ∧
        receiver.lastForwarded sender.id = record receiver.key sender.key)

/-- What holds of a relay and its record between operations. -/
structure Chronicled (relay : Relay)
    (record : SessionKey → SessionKey → Option SequenceNumber) : Prop where
  traced : relay.Traced
  recorded : relay.Recorded relay.events.pending record
  /-- Only sessions that have begun are on record. -/
  begun : ∀ {receiver sender : SessionKey}, record receiver sender ≠ none →
    receiver.session ≤ relay.directory.lastSession ∧
      sender.session ≤ relay.directory.lastSession

variable {relay : Relay} {record : SessionKey → SessionKey → Option SequenceNumber}

/-- Taking up events leaves those who stay with what they owe one another. -/
theorem Settles.recorded {before after : Relay} {coming rest : List PeerEvent}
    {mail : List Parcel} (settles : before.Settles coming mail after rest)
    (recorded : before.Recorded coming record) : after.Recorded rest record := by
  intro receiver sender receives sends apart
  have same : after.Owes rest receiver.key sender.id ↔
      before.Owes coming receiver.key sender.id := by
    rw [settles.owed receives apart]
    simp [sends]
  rw [same]
  exact recorded (settles.find?_before receives) (settles.find?_before sends) apart

/-- Carrying on with purges drops the entries of earlier sessions, or leaves them owed. -/
theorem Recorded.retryPurges (keyed : relay.directory.Keyed) (busy : SessionKey → Bool)
    (recorded : relay.Recorded [] record) : (relay.retryPurges busy).Recorded [] record := by
  have maps := (relay.retryPurges_spec busy keyed).2.maps
  intro receiver sender receives sends apart
  rw [maps, Option.map_eq_some_iff] at receives sends
  obtain ⟨before, there, rfl⟩ := receives
  obtain ⟨other, here, rfl⟩ := sends
  have sameKey (peer : Peer) : (peer.purgedOfAll (busy peer.key)
      (dues relay.purges peer.key)).key = peer.key := Peer.key_purgedOfAll _ _
  rw [Peer.id_eq_of_key (sameKey before)] at there
  rw [Peer.id_eq_of_key (sameKey other)] at here
  rw [Peer.id_eq_of_key (sameKey before), Peer.id_eq_of_key (sameKey other)] at apart
  rw [sameKey, sameKey, Peer.id_eq_of_key (sameKey other), owes_retryPurges busy relay keyed,
    Peer.lastForwarded_purgedOfAll]
  rw [lingers_of_connected busy there]
  rcases recorded there here apart with ⟨owed, blank⟩ | ⟨free, entry⟩
  · rw [blank]
    cases inUse : busy before.key with
    | false => exact Or.inr ⟨by simp, if_pos ⟨rfl, owes_nil.mp owed⟩⟩
    | true =>
      cases known : before.client with
      | none =>
        refine Or.inr ⟨by simp, ?_⟩
        rw [if_neg (by simp), Peer.lastForwarded, known, Option.bind_none]
      | some client => exact Or.inl ⟨⟨owed, rfl⟩, rfl⟩
  · refine Or.inr ⟨fun both => free both.1, ?_⟩
    rw [if_neg fun both => free (owes_nil.mpr both.2), entry]

theorem owes_of_serves (order : VisitOrder) (busy : SessionKey → Bool) (began : Instant)
    (formed : relay.directory.WellFormed) {receiver : Peer}
    (receives : (relay.beforePass order busy began).directory.find? receiver.id = some receiver)
    (served : (relay.nextPass order busy began).serves receiver = true) (sender : PeerId) :
    ¬ (relay.beforePass order busy began).Owes [] receiver.key sender := by
  have settled := (relay.settles_timed order began formed).wellFormed formed
  have free : busy receiver.key = false := by
    simp only [Pass.serves, nextPass, receives, Option.any_some, Bool.and_eq_true,
      Bool.not_eq_true'] at served
    exact served.1.2
  intro owed
  have lingering := ((owes_retryPurges busy _ settled.keyed _ _).mp owed).2
  rw [lingers, free, Bool.false_and] at lingering
  cases lingering

/-- What a pass forwards goes on record, and is what it notes. -/
theorem Recorded.tick (order : VisitOrder) (busy : SessionKey → Bool) (began ended : Instant)
    (formed : relay.directory.WellFormed)
    (recorded : (relay.beforePass order busy began).Recorded [] record) :
    (relay.tick order busy began ended).2.Recorded [] fun receiver sender =>
      (relay.forwardedBy receiver sender (.tick order busy began ended)).or
        (record receiver sender) := by
  obtain ⟨change, maps, leaves⟩ := relay.find?_tick order busy began ended formed
  have samePurges := (relay.tick_keeps order busy began ended formed).2.1
  have proper := relay.proper_nextPass order busy began formed
  intro receiver sender receives sends apart
  rw [maps, Option.map_eq_some_iff] at receives sends
  obtain ⟨before, there, rfl⟩ := receives
  obtain ⟨other, here, rfl⟩ := sends
  rw [Peer.id_eq_of_key (leaves before).key] at there apart
  rw [Peer.id_eq_of_key (leaves other).key] at here apart
  have same : (relay.tick order busy began ended).2.Owes [] before.key other.id ↔
      (relay.beforePass order busy began).Owes [] before.key other.id := by
    rw [owes_nil, owes_nil, samePurges]
  rw [(leaves before).key, (leaves other).key, Peer.id_eq_of_key (leaves other).key, same,
    (leaves before).lastForwarded, proper.lastForwarded_passed there here]
  dsimp only
  rw [relay.forwardedBy_of_found there here]
  cases forwarded : Parcel.forwards (relay.nextPass order busy began).mail before.id other.id with
  | false =>
    simp only [Bool.false_eq_true, if_false, Option.none_or]
    exact recorded there here apart
  | true =>
    obtain ⟨served, -, joined⟩ := proper.of_forwards there forwarded
    obtain ⟨client, known, -⟩ := proper.present_of_found here joined
    refine Or.inr ⟨relay.owes_of_serves order busy began formed there served _, ?_⟩
    rw [if_pos rfl, if_pos rfl, Peer.latest, known]
    rfl

namespace Chronicled

theorem opened (config : Config) (fanout : Fanout) :
    (Relay.opened config fanout).Chronicled fun _ _ => none where
  traced := Traced.opened config fanout
  recorded receiver sender receives := by
    rw [find?_opened] at receives
    cases receives
  begun some := absurd rfl some

theorem steady {after : Relay} (chronicled : relay.Chronicled record)
    (steady : relay.Steady after) : after.Chronicled record where
  traced := chronicled.traced.steady steady
  recorded receiver sender receives sends apart := by
    obtain ⟨before, there, alike⟩ := steady.find?_before receives
    obtain ⟨other, here, alikeOther⟩ := steady.find?_before sends
    rw [Peer.id_eq_of_key alike.key] at there apart
    rw [Peer.id_eq_of_key alikeOther.key] at here apart
    rw [alike.key, alikeOther.key, Peer.id_eq_of_key alikeOther.key, steady.owes_iff,
      alike.lastForwarded]
    exact chronicled.recorded there here apart
  begun some := by
    rw [steady.lastSession]
    exact chronicled.begun some

/-- Nothing is on record about sessions that have not begun. -/
theorem unrecorded (chronicled : relay.Chronicled record) {receiver sender : SessionKey}
    (late : relay.directory.lastSession < receiver.session ∨
      relay.directory.lastSession < sender.session) : record receiver sender = none := by
  cases entry : record receiver sender with
  | none => rfl
  | some number =>
    obtain ⟨early, earlyOther⟩ := chronicled.begun (by rw [entry]; exact Option.some_ne_none _)
    omega

/-- A peer has no entry about an identifier that is not connected, unless it owes a purge. -/
theorem blank_of_absent (chronicled : relay.Chronicled record) {receiver : Peer} {id : PeerId}
    (receives : relay.directory.find? receiver.id = some receiver)
    (absent : relay.directory.find? id = none)
    (unowed : ¬ relay.Owes relay.events.pending receiver.key id) :
    receiver.lastForwarded id = none := by
  apply Peer.lastForwarded_eq_none
  rw [Bool.eq_false_iff]
  intro remembered
  obtain ⟨-, ⟨agent, here, -⟩ | owed⟩ := chronicled.traced.accounted receives remembered
  · rw [absent] at here
    cases here
  · exact unowed owed

/-- Nothing is on record about a session that begins, and whoever still has an entry under
its identifier owes a purge. -/
theorem connect (chronicled : relay.Chronicled record) (id : PeerId) (role : Role) :
    (relay.connect id role).2.Chronicled record where
  traced := chronicled.traced.connect id role
  recorded receiver sender receives sends apart := by
    have formed := chronicled.traced.formed
    have newest : relay.directory.lastSession < relay.directory.lastSession + 1 :=
      Nat.lt_succ_self _
    rw [find?_connect] at receives sends
    rw [owes_connect relay formed]
    split at sends
    · next again =>
      rw [if_neg fun same => apart (same.trans again.symm)] at receives
      have late : record receiver.key sender.key = none := by
        cases sends
        exact chronicled.unrecorded (Or.inr newest)
      by_cases owed : relay.Owes relay.events.pending receiver.key sender.id
      · exact Or.inl ⟨Or.inl owed, late⟩
      cases old : relay.directory.find? id with
      | some peer => exact Or.inl ⟨Or.inr ⟨again, Option.some_ne_none _⟩, late⟩
      | none =>
        rw [again] at owed ⊢
        exact Or.inr ⟨by simp [owed], by rw [late, chronicled.blank_of_absent receives old owed]⟩
    · next other =>
      have same : relay.Owes relay.events.pending receiver.key sender.id ∨
          sender.id = id ∧ relay.directory.find? id ≠ none ↔
          relay.Owes relay.events.pending receiver.key sender.id := by
        simp [other]
      rw [same]
      split at receives
      · have late : record receiver.key sender.key = none := by
          cases receives
          exact chronicled.unrecorded (Or.inl newest)
        have entry : receiver.lastForwarded sender.id = none := by
          cases receives
          rfl
        by_cases owed : relay.Owes relay.events.pending receiver.key sender.id
        · exact Or.inl ⟨owed, late⟩
        · exact Or.inr ⟨owed, by rw [late, entry]⟩
      · exact chronicled.recorded receives sends apart
  begun some := by
    rw [(relay.connect_keeps id role).1]
    exact (chronicled.begun some).imp Nat.le_succ_of_le Nat.le_succ_of_le

/-- Entries agree with the record when a pass begins, all purges made that can be. -/
theorem recorded_beforePass (chronicled : relay.Chronicled record) (order : VisitOrder)
    (busy : SessionKey → Bool) (began : Instant) :
    (relay.beforePass order busy began).Recorded [] record := by
  have formed := chronicled.traced.formed
  have settles := relay.settles_timed order began formed
  exact (settles.recorded chronicled.recorded).retryPurges (settles.wellFormed formed).keyed busy

theorem tick (chronicled : relay.Chronicled record) (order : VisitOrder) (busy : SessionKey → Bool)
    (began ended : Instant) :
    (relay.tick order busy began ended).2.Chronicled fun receiver sender =>
      (relay.forwardedBy receiver sender (.tick order busy began ended)).or
        (record receiver sender) := by
  have formed := chronicled.traced.formed
  obtain ⟨-, -, nothing, last⟩ := relay.tick_keeps order busy began ended formed
  refine ⟨chronicled.traced.tick order busy began ended, ?_, ?_⟩
  · rw [nothing]
    exact (chronicled.recorded_beforePass order busy began).tick order busy began ended formed
  · intro receiver sender entry
    rw [last]
    cases noted : relay.forwardedBy receiver sender (.tick order busy began ended) with
    | none =>
      rw [noted] at entry
      exact chronicled.begun entry
    | some number =>
      -- Both sessions were connected during the pass.
      have connected {key : SessionKey} {peer : Peer}
          (found : (relay.nextPass order busy began).directory.findSession? key = some peer) :
          key.session ≤ relay.directory.lastSession := by
        obtain ⟨there, session⟩ := (Directory.findSession?_eq_some_iff _).mp found
        have bound := (relay.wellFormed_beforePass order busy began formed).numbered there
        rw [relay.lastSession_beforePass order busy began formed] at bound
        omega
      obtain ⟨own, peer, found, foundOther, -⟩ := forwardedBy_tick noted
      exact ⟨connected found, connected foundOther⟩

theorem apply (chronicled : relay.Chronicled record) (operation : Operation) :
    (relay.apply operation).Chronicled fun receiver sender =>
      (relay.forwardedBy receiver sender operation).or (record receiver sender) := by
  cases operation with
  | connect id role => exact chronicled.connect id role
  | receive sender bytes now =>
    exact chronicled.steady (relay.steady_receive chronicled.traced.formed sender bytes now)
  | disconnect key => exact chronicled.steady (relay.steady_push rfl)
  | rewire transport => exact chronicled.steady (Steady.of_eq rfl rfl rfl)
  | tick order busy began ended => exact chronicled.tick order busy began ended

theorem run (chronicled : relay.Chronicled record) (operations : List Operation) :
    (relay.run operations).Chronicled fun receiver sender =>
      (relay.lastForward receiver sender operations).or (record receiver sender) := by
  induction operations generalizing relay record with
  | nil => exact chronicled
  | cons operation rest ih =>
    simp only [lastForward, Option.or_assoc]
    exact ih (chronicled.apply operation)

end Chronicled

end Relay

/-! ## What a receiver is served with -/

namespace Pass

/-- A pass serves a receiver, and another peer takes part as a sender. -/
structure Meets (pass : Pass) (receiver : Peer) (client : Client) (sender : Peer)
    (data : Client) : Prop where
  receives : pass.directory.find? receiver.id = some receiver
  known : receiver.client = some client
  served : pass.serves receiver = true
  sends : pass.directory.find? sender.id = some sender
  given : sender.client = some data
  joined : sender.id ∈ pass.audience.map Candidate.id
  apart : receiver.id ≠ sender.id

instance (pass : Pass) (receiver : Peer) (client : Client) (sender : Peer) (data : Client) :
    Decidable (pass.Meets receiver client sender data) :=
  decidable_of_iff
    (pass.directory.find? receiver.id = some receiver ∧ receiver.client = some client ∧
      pass.serves receiver = true ∧ pass.directory.find? sender.id = some sender ∧
      sender.client = some data ∧ sender.id ∈ pass.audience.map Candidate.id ∧
      receiver.id ≠ sender.id)
    ⟨fun ⟨receives, known, served, sends, given, joined, apart⟩ =>
      ⟨receives, known, served, sends, given, joined, apart⟩,
    fun meets => ⟨meets.receives, meets.known, meets.served, meets.sends, meets.given,
      meets.joined, meets.apart⟩⟩

end Pass

/-- A receiver without an entry is sent the sender's update with every joint, whatever its
number. -/
theorem Visit.segment_of_unknown (context : PassContext) (own other : Candidate) (visit : Visit)
    (unknown : visit.receiver.lastForwarded[other.id]? = none) :
    Sequence.standing (visit.receiver.lastFrom other.id) other.sender.latest ≠ .heldBack ∧
      Sequence.outOfOrder (visit.receiver.lastFrom other.id) other.sender.latest = false ∧
      visit.segmentFor context own other = ⟨other.id, other.avatar.encodeUpdate true⟩ := by
  have zero : visit.receiver.lastFrom other.id = 0 := by
    rw [Receiver.lastFrom, unknown, Option.getD_none]
  have first : visit.receiver.lastForwarded.contains other.id = false := by
    rw [Std.ExtTreeMap.contains_eq_isSome_getElem?, unknown, Option.isSome_none]
  rw [zero]
  refine ⟨?_, ?_, ?_⟩
  · unfold Sequence.standing
    split
    · next held =>
      simp at held
    · split <;> exact Sequence.Standing.noConfusion
  · simp [Sequence.outOfOrder]
  · rw [segmentFor, sendsFull, first]
    rfl

/-- An update with every joint lists each joint at its index. -/
theorem Avatar.joints_update_full (avatar : Avatar) :
    (avatar.update true).joints =
      avatar.pose.joints.zipIdx.map fun (joint, index) => (UInt16.ofNat index, joint) := by
  rw [← List.filterMap_eq_map]
  rfl

theorem Pass.Proper.present_of_meets {pass : Pass} (proper : pass.Proper) {receiver sender : Peer}
    {client data : Client} (meets : pass.Meets receiver client sender data) :
    sender.reachable pass.transport = true ∧ Candidate.of sender data ∈ pass.audience := by
  obtain ⟨_, given, -, reached, present⟩ := proper.present_of_found meets.sends meets.joined
  rw [meets.given] at given
  cases given
  exact ⟨reached, present⟩

/-- A receiver that is served has the entry on record about each sender that it meets. -/
theorem Relay.Chronicled.lastForwarded {relay : Relay}
    {record : SessionKey → SessionKey → Option SequenceNumber}
    (chronicled : relay.Chronicled record) {order : VisitOrder} {busy : SessionKey → Bool}
    {began : Instant} {receiver sender : Peer} {client data : Client}
    (meets : (relay.nextPass order busy began).Meets receiver client sender data) :
    receiver.lastForwarded sender.id = record receiver.key sender.key := by
  have unowed := owes_of_serves order busy began chronicled.traced.formed meets.receives
    meets.served sender.id
  rcases chronicled.recorded_beforePass order busy began meets.receives meets.sends meets.apart with
    ⟨owed, -⟩ | ⟨-, recorded⟩
  · exact absurd owed unowed
  · exact recorded

/-- When a pass comes to a sender for a receiver that it serves, the entry is the one on
record. -/
theorem Relay.Chronicled.entry {relay : Relay}
    {record : SessionKey → SessionKey → Option SequenceNumber}
    (chronicled : relay.Chronicled record) {order : VisitOrder} {busy : SessionKey → Bool}
    {began : Instant} {receiver sender : Peer} {client data : Client}
    (meets : (relay.nextPass order busy began).Meets receiver client sender data) :
    ((relay.nextPass order busy began).visitBefore (Candidate.of receiver client) client.receiver
      sender.id).receiver.lastForwarded[sender.id]? = record receiver.key sender.key := by
  have proper := relay.proper_nextPass order busy began chronicled.traced.formed
  refine (proper.lastForwarded_visitBefore (Candidate.of receiver client) client.receiver
    (proper.present_of_meets meets).2).trans ?_
  rw [← chronicled.lastForwarded meets, Peer.lastForwarded, meets.known, Option.bind_some]
  rfl

/-- The segments of a sender that a receiver is served with are those of its visit. -/
theorem Pass.Proper.segment_of_meets {pass : Pass} (proper : pass.Proper) {receiver sender : Peer}
    {client data : Client} (meets : pass.Meets receiver client sender data) {batch : Batch}
    (sent : ⟨receiver.id, .bulkAvatarData batch⟩ ∈ pass.mail) {segment : Segment}
    (listed : segment ∈ batch.segments) (sending : segment.sender = sender.id) :
    segment = (pass.visitBefore (Candidate.of receiver client) client.receiver
      sender.id).segmentFor pass.context (Candidate.of receiver client)
        (Candidate.of sender data) := by
  rw [← Parcel.mem_packetsTo, proper.packetsTo_of_served meets.known meets.receives meets.served,
    Visit.mem_packets_bulk _ (identities_visit _ _)] at sent
  rw [sent.1, proper.mem_batch] at listed
  obtain ⟨other, among, -, rfl⟩ := listed
  obtain ⟨_, rfl, given, -⟩ := proper.candidate_of_found meets.sends among sending
  rw [meets.given] at given
  cases given
  rfl

theorem Pass.Proper.forwards_of_present {pass : Pass} (proper : pass.Proper) {receiver : Peer}
    {client : Client} (known : receiver.client = some client)
    (receives : pass.directory.find? receiver.id = some receiver)
    (served : pass.serves receiver = true) {other : Candidate} (present : other ∈ pass.audience) :
    Parcel.forwards pass.mail receiver.id other.id =
      (pass.visitBefore (Candidate.of receiver client) client.receiver other.id).forwards
        pass.context (Candidate.of receiver client) other := by
  rw [Parcel.forwards, proper.packetsTo_of_served known receives served,
    Visit.any_packets_forwards _ _ (identities_visit _ _)]
  exact (proper.visit_of_present (Candidate.of receiver client) client.receiver present).1

theorem Pass.Proper.forwards_of_meets {pass : Pass} (proper : pass.Proper)
    {receiver sender : Peer} {client data : Client}
    (meets : pass.Meets receiver client sender data) :
    Parcel.forwards pass.mail receiver.id sender.id =
      (pass.visitBefore (Candidate.of receiver client) client.receiver sender.id).forwards
        pass.context (Candidate.of receiver client) (Candidate.of sender data) :=
  proper.forwards_of_present meets.known meets.receives meets.served
    (proper.present_of_meets meets).2

theorem Pass.Proper.meets_of_forwards {pass : Pass} (proper : pass.Proper)
    {receiver sender : Peer} (receives : pass.directory.find? receiver.id = some receiver)
    (sends : pass.directory.find? sender.id = some sender)
    (forwarded : Parcel.forwards pass.mail receiver.id sender.id = true) :
    ∃ client data, pass.Meets receiver client sender data := by
  obtain ⟨served, apart, joined⟩ := proper.of_forwards receives forwarded
  obtain ⟨data, given, -⟩ := proper.present_of_found sends joined
  cases known : receiver.client with
  | none =>
    rw [Parcel.forwards, proper.packetsTo_of_unserved receives (Or.inr known)] at forwarded
    cases forwarded
  | some client =>
    exact ⟨client, data, receives, known, served, sends, given, joined, Ne.symm apart⟩

/-- Entries keep sessions apart. When a pass comes to a sender for a receiver that it
serves, the entry is the number that an earlier tick last forwarded from just this session
of the sender to just this session of the receiver. If none did, the sender is neither held
back nor out of order, and all that the receiver is sent of it is an update with every
joint. -/
theorem entries_of_run (config : Config) (fanout : Fanout) (operations : List Relay.Operation)
    (order : VisitOrder) (busy : SessionKey → Bool) (began : Instant) {receiver sender : Peer}
    {client data : Client}
    (meets : (((Relay.opened config fanout).run operations).nextPass order busy began).Meets
      receiver client sender data) :
    let pass := ((Relay.opened config fanout).run operations).nextPass order busy began
    let visit := pass.visitBefore (Candidate.of receiver client) client.receiver sender.id
    let record := (Relay.opened config fanout).lastForward receiver.key sender.key operations
    visit.receiver.lastForwarded[sender.id]? = record ∧
      (record = none →
        Sequence.standing (visit.receiver.lastFrom sender.id) data.sender.latest ≠ .heldBack ∧
        Sequence.outOfOrder (visit.receiver.lastFrom sender.id) data.sender.latest = false ∧
        ∀ batch, ⟨receiver.id, .bulkAvatarData batch⟩ ∈ pass.mail →
          ∀ segment ∈ batch.segments, segment.sender = sender.id →
            ∃ update, segment.payload = Update.format.write update ∧ update.full = true ∧
              update.joints = data.avatar.pose.joints.zipIdx.map
                fun (joint, index) => (UInt16.ofNat index, joint)) := by
  intro pass visit record
  have chronicled := (Relay.Chronicled.opened config fanout).run operations
  have proper : pass.Proper := Relay.proper_nextPass _ order busy began chronicled.traced.formed
  have entry : visit.receiver.lastForwarded[sender.id]? = record := by
    rw [chronicled.entry meets, Option.or_none]
  refine ⟨entry, fun blank => ?_⟩
  obtain ⟨fresh, ordered, full⟩ := visit.segment_of_unknown pass.context
    (Candidate.of receiver client) (Candidate.of sender data) (entry.trans blank)
  refine ⟨fresh, ordered, fun batch sent segment listed sending => ?_⟩
  refine ⟨data.avatar.update true, ?_, rfl, data.avatar.joints_update_full⟩
  rw [proper.segment_of_meets meets sent listed sending]
  exact congrArg Segment.payload full

/-- After a tick among two agents that have sent an update each, one is served with the
entry of that update. -/
theorem entries_after_introduction :
    let start := Relay.opened Config.standard (Fanout.ofSeed Config.standard.fanoutSettings 0)
    let operations := Relay.introduction ++ [.tick .ascending (fun _ => false) 0 0]
    let pass := (start.run operations).nextPass .ascending (fun _ => false) 1
    ∃ receiver client sender data, pass.Meets receiver client sender data ∧
      (pass.visitBefore (Candidate.of receiver client) client.receiver
        sender.id).receiver.lastForwarded[sender.id]? = some 1 := by
  intro start operations pass
  have receives : (pass.directory.find? Relay.firstAgent).any (fun receiver =>
      receiver.key = ⟨Relay.firstAgent, 1⟩ && receiver.client.isSome && pass.serves receiver) =
        true := by decide +kernel
  have sends : (pass.directory.find? Relay.secondAgent).any (fun sender =>
      sender.key = ⟨Relay.secondAgent, 2⟩ && sender.client.isSome) = true := by decide +kernel
  have joined : Relay.secondAgent ∈ pass.audience.map Candidate.id := by decide +kernel
  have recorded : start.lastForward ⟨Relay.firstAgent, 1⟩ ⟨Relay.secondAgent, 2⟩ operations =
      some 1 := by decide +kernel
  obtain ⟨receiver, there, facts⟩ := (Option.any_eq_true _ _).mp receives
  obtain ⟨sender, here, senderFacts⟩ := (Option.any_eq_true _ _).mp sends
  simp only [Bool.and_eq_true, decide_eq_true_eq] at facts senderFacts
  obtain ⟨⟨key, present⟩, served⟩ := facts
  obtain ⟨senderKey, senderPresent⟩ := senderFacts
  obtain ⟨client, known⟩ := Option.isSome_iff_exists.mp present
  obtain ⟨data, given⟩ := Option.isSome_iff_exists.mp senderPresent
  have own : receiver.id = Relay.firstAgent := congrArg SessionKey.id key
  have other : sender.id = Relay.secondAgent := congrArg SessionKey.id senderKey
  have meets : pass.Meets receiver client sender data :=
    { receives := by rw [own, there]
      known := known
      served := served
      sends := by rw [other, here]
      given := given
      joined := by rw [other]; exact joined
      apart := by rw [own, other]; decide }
  refine ⟨receiver, client, sender, data, meets, ?_⟩
  rw [(entries_of_run _ _ operations _ _ _ meets).1, key, senderKey]
  exact recorded

end AvatarRelay
