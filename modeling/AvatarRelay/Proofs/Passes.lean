/-
# Passes

A pass serves its receivers one after the other, but no turn touches what another
one reads: so a pass is known from what each receiver's turn does by itself. Only
chance is shared, and a turn begins with the chance that the turns before it left.
-/

import AvatarRelay.Proofs.Turns

namespace AvatarRelay

namespace Candidate

variable {others earlier later : List Candidate} {own : Candidate}

theorem not_mem_of_split (distinct : (others.map id).Nodup)
    (split : others = earlier ++ own :: later) : own.id ∉ earlier.map id := by
  subst split
  rw [List.map_append, List.nodup_append] at distinct
  intro early
  exact distinct.2.2 own.id early own.id (by simp) rfl

theorem not_mem_later_of_split (distinct : (others.map id).Nodup)
    (split : others = earlier ++ own :: later) : own.id ∉ later.map id := by
  subst split
  rw [List.map_append, List.map_cons, List.nodup_append, List.nodup_cons] at distinct
  exact distinct.2.1.1

/-- The candidates before one of several different ones are those that stand before it. -/
theorem takeWhile_of_split (distinct : (others.map id).Nodup)
    (split : others = earlier ++ own :: later) :
    others.takeWhile (·.id ≠ own.id) = earlier := by
  have apart : ∀ other ∈ earlier, decide (other.id ≠ own.id) = true := by
    intro other listed
    apply decide_eq_true
    intro same
    exact not_mem_of_split distinct split (same ▸ List.mem_map_of_mem listed)
  rw [split, List.takeWhile_append_of_pos apart, List.takeWhile_cons_of_neg (by simp),
    List.append_nil]

end Candidate

/-- What a pass is made over. -/
structure Pass where
  fanout : Fanout
  order : List PeerId
  busy : PeerId → Bool
  now : Instant
  directory : Directory
  transport : Loopback

namespace Pass

variable (pass : Pass)

def result : PassState × Fanout :=
  pass.fanout.pass pass.order pass.busy pass.now pass.directory pass.transport

def context : PassContext :=
  ⟨pass.fanout.settings, pass.fanout.lastPass, pass.now, pass.busy⟩

def audience : List Candidate :=
  Candidate.gather pass.directory pass.transport pass.order

def beginning : PassState :=
  ⟨pass.directory, pass.transport, pass.fanout.random, Counters.zero⟩

/-- The state when the turn of a receiver comes. -/
def stateBefore (receiver : PeerId) : PassState :=
  (pass.audience.takeWhile (·.id ≠ receiver)).foldl
    (Fanout.turn pass.context pass.audience) pass.beginning

/-- A receiver in the course of its visits, when that of one candidate comes. -/
def visitBefore (own : Candidate) (receiver : Receiver) (sender : PeerId) : Visit :=
  Fanout.visits pass.context (pass.audience.takeWhile (·.id ≠ sender)) own receiver
    (pass.stateBefore own.id)

def visit (own : Candidate) (receiver : Receiver) : Visit :=
  Fanout.visits pass.context pass.audience own receiver (pass.stateBefore own.id)

def packetsOf (own : Candidate) : List OutboundPacket :=
  if pass.busy own.id then []
  else
    match pass.directory.client? own.id with
    | none => []
    | some client => (pass.visit own client.receiver).packets

def mail : List Parcel :=
  pass.audience.flatMap fun own => Parcel.addressed own.id (pass.packetsOf own)

def serves (peer : Peer) : Bool :=
  pass.order.contains peer.id && !pass.busy peer.id && peer.reachable pass.transport

theorem serves_iff {peer : Peer} :
    pass.serves peer = true ↔ peer.id ∈ pass.order ∧ pass.busy peer.id = false ∧
      peer.reachable pass.transport = true := by
  rw [serves, Bool.and_eq_true, Bool.and_eq_true, List.contains_iff_mem, Bool.not_eq_true',
    and_assoc]

def turned (peer : Peer) : Peer :=
  if pass.busy peer.id || !peer.reachable pass.transport then peer
  else peer.mapClient fun client => client.mapReceiver fun _ =>
    (pass.visit (Candidate.of peer client) client.receiver).settled pass.now

def snapped (peer : Peer) : Peer :=
  if pass.busy peer.id then peer
  else peer.mapClient fun client => { client with avatar := client.avatar.snapshotJoints }

theorem key_turned (peer : Peer) : (pass.turned peer).key = peer.key := by
  unfold turned
  split <;> rfl

def passed (peer : Peer) : Peer :=
  if pass.order.contains peer.id then pass.snapped (pass.turned peer) else peer

/-- A pass changes nothing but client data, and of that a receiver only by serving it. -/
theorem passed_spec (peer : Peer) :
    ∃ change : Client → Client, pass.passed peer = peer.mapClient change ∧
      ∀ client, (change client).sender = client.sender ∧
        (change client).receiver =
          if pass.serves peer then
            (pass.visit (Candidate.of peer client) client.receiver).settled pass.now
          else client.receiver := by
  have unchanged : peer = peer.mapClient fun client => client :=
    (Peer.mapClient_of_eq fun _ _ => rfl).symm
  cases listed : pass.order.contains peer.id with
  | false =>
    refine ⟨_, ?_, fun client => ⟨rfl, ?_⟩⟩
    · rw [passed, listed, if_neg Bool.false_ne_true]
      exact unchanged
    · simp only [serves, listed, Bool.false_and, Bool.false_eq_true, if_false]
  | true =>
    rw [passed, listed, if_pos rfl]
    cases occupied : pass.busy peer.id with
    | true =>
      refine ⟨_, ?_, fun client => ⟨rfl, ?_⟩⟩
      · simpa [snapped, turned, occupied] using unchanged
      · simp [serves, occupied]
    | false =>
      cases reached : peer.reachable pass.transport with
      | false =>
        refine ⟨fun client => { client with avatar := client.avatar.snapshotJoints },
          ?_, fun client => ⟨rfl, ?_⟩⟩
        · simp [snapped, turned, occupied, reached]
        · simp [serves, reached]
      | true =>
        refine ⟨fun client =>
          { client with
            avatar := client.avatar.snapshotJoints
            receiver :=
              (pass.visit (Candidate.of peer client) client.receiver).settled pass.now },
          ?_, fun client => ⟨rfl, ?_⟩⟩
        · simp [snapped, turned, occupied, reached, Peer.mapClient, Function.comp_def,
            Client.mapReceiver]
        · simp only [serves, listed, occupied, reached, Bool.not_false, Bool.and_self, if_true]

theorem key_passed (peer : Peer) : (pass.passed peer).key = peer.key := by
  obtain ⟨change, passed, -⟩ := pass.passed_spec peer
  rw [passed, Peer.key_mapClient]

theorem role_passed (peer : Peer) : (pass.passed peer).role = peer.role := by
  obtain ⟨change, passed, -⟩ := pass.passed_spec peer
  rw [passed, Peer.mapClient]

theorem isIgnoring_passed (peer : Peer) (other : PeerId) :
    (pass.passed peer).isIgnoring other = peer.isIgnoring other := by
  obtain ⟨change, passed, -⟩ := pass.passed_spec peer
  rw [passed, Peer.isIgnoring, Peer.mapClient, Peer.isIgnoring]

theorem isSome_client_passed (peer : Peer) :
    (pass.passed peer).client.isSome = peer.client.isSome := by
  obtain ⟨change, passed, -⟩ := pass.passed_spec peer
  rw [passed, Peer.client_mapClient, Option.isSome_map]

theorem latest_passed (peer : Peer) : (pass.passed peer).latest = peer.latest := by
  obtain ⟨change, passed, changes⟩ := pass.passed_spec peer
  rw [passed, Peer.latest, Peer.client_mapClient, Option.map_map, Peer.latest]
  apply congrArg (Option.map · peer.client)
  funext client
  exact congrArg Sender.latest (changes client).1

/-- A pass changes an avatar only by taking its snapshot, if it comes to the peer and finds
its data free. -/
theorem avatar_passed (peer : Peer) :
    (pass.passed peer).client.map Client.avatar =
      (peer.client.map Client.avatar).map fun avatar =>
        if pass.order.contains peer.id && !pass.busy peer.id then avatar.snapshotJoints
        else avatar := by
  have turned : (pass.turned peer).client.map Client.avatar = peer.client.map Client.avatar := by
    unfold turned
    split
    · rfl
    · rw [Peer.client_mapClient, Option.map_map]
      rfl
  have same : (pass.turned peer).id = peer.id := Peer.id_eq_of_key (pass.key_turned peer)
  rw [passed]
  cases pass.order.contains peer.id with
  | false => simp [Function.comp_def]
  | true =>
    rw [if_pos rfl, snapped, same, ← turned]
    cases pass.busy peer.id with
    | true => simp [Function.comp_def]
    | false => simp [Function.comp_def]

/-- The peers of the pass are listed once each, under their own identifiers. -/
structure Proper : Prop where
  distinct : pass.order.Nodup
  keyed : pass.directory.Keyed

variable {pass}

section One

variable {own : Candidate}

theorem packetsOf_of_busy (occupied : pass.busy own.id = true) : pass.packetsOf own = [] :=
  if_pos occupied

theorem packetsOf_of_known {client : Client} (free : pass.busy own.id = false)
    (known : pass.directory.client? own.id = some client) :
    pass.packetsOf own = (pass.visit own client.receiver).packets := by
  simp only [packetsOf, free, known, Bool.false_eq_true, if_false]

end One

theorem passed_of_busy {peer : Peer} (occupied : pass.busy peer.id = true) :
    pass.passed peer = peer := by
  simp [passed, snapped, turned, occupied]

theorem passed_of_silent {peer : Peer} (silent : peer.client = none) :
    pass.passed peer = peer := by
  obtain ⟨change, passed, -⟩ := pass.passed_spec peer
  exact passed.trans (Peer.mapClient_of_none silent change)

theorem turned_of_absent {peer : Peer} (found : pass.directory.find? peer.id = some peer)
    (listed : peer.id ∈ pass.order) (absent : peer.id ∉ pass.audience.map Candidate.id) :
    pass.turned peer = peer := by
  cases reached : peer.reachable pass.transport with
  | false => simp [turned, reached]
  | true =>
    have silent : peer.client = none := by
      refine Option.eq_none_iff_forall_ne_some.mpr fun client known => absent ?_
      exact List.mem_map.mpr ⟨Candidate.of peer client, Candidate.mem_gather.mpr
        ⟨peer.id, listed, peer, client, found, reached, known, rfl⟩, rfl⟩
    unfold turned
    split
    · rfl
    · exact Peer.mapClient_of_none silent _

theorem packetsTo_mail_of_absent {id : PeerId} (absent : id ∉ pass.audience.map Candidate.id) :
    Parcel.packetsTo id pass.mail = [] :=
  Parcel.packetsTo_flatMap_of_not_mem Candidate.id pass.packetsOf absent

/-- Whatever a pass hands over came of the visits of someone who takes part. -/
theorem visit_of_mail {parcel : Parcel} (sent : parcel ∈ pass.mail) :
    ∃ own ∈ pass.audience, ∃ client : Client, own.id = parcel.destination ∧
      parcel.packet ∈ (pass.visit own client.receiver).packets := by
  obtain ⟨own, present, addressed⟩ := List.mem_flatMap.mp sent
  obtain ⟨packet, due, rfl⟩ := List.mem_map.mp addressed
  unfold packetsOf at due
  split at due
  · cases due
  split at due
  · cases due
  next client known => exact ⟨own, present, client, rfl, due⟩

namespace Proper

variable (proper : pass.Proper)

include proper

theorem nodup_audience : (pass.audience.map Candidate.id).Nodup :=
  proper.distinct.sublist (Candidate.gather_ids_sublist proper.keyed _ _)

/-- Those who take part are the listed agents that can be reached and have client data. -/
theorem mem_audience {own : Candidate} :
    own ∈ pass.audience ↔ ∃ peer client, pass.directory.find? peer.id = some peer ∧
      peer.id ∈ pass.order ∧ peer.reachable pass.transport = true ∧
        peer.client = some client ∧ own = Candidate.of peer client := by
  rw [audience, Candidate.mem_gather]
  constructor
  · rintro ⟨id, listed, peer, client, there, reached, known, rfl⟩
    have here : peer.id = id := proper.keyed there
    subst here
    exact ⟨peer, client, there, listed, reached, known, rfl⟩
  · rintro ⟨peer, client, there, listed, reached, known, rfl⟩
    exact ⟨peer.id, listed, peer, client, there, reached, known, rfl⟩

/-- Whoever takes part under the identifier of a connected peer is that peer. -/
theorem candidate_of_found {peer : Peer} (found : pass.directory.find? peer.id = some peer)
    {own : Candidate} (present : own ∈ pass.audience) (same : own.id = peer.id) :
    ∃ client, own = Candidate.of peer client ∧ peer.client = some client ∧
      peer.id ∈ pass.order ∧ peer.reachable pass.transport = true := by
  obtain ⟨joining, client, there, listed, reached, known, rfl⟩ :=
    proper.mem_audience.mp present
  have only : joining = peer := by
    rw [show joining.id = peer.id from same, found] at there
    exact (Option.some.inj there).symm
  subst only
  exact ⟨client, rfl, known, listed, reached⟩

theorem present_of_found {peer : Peer} (found : pass.directory.find? peer.id = some peer)
    (joined : peer.id ∈ pass.audience.map Candidate.id) :
    ∃ client, peer.client = some client ∧ peer.id ∈ pass.order ∧
      peer.reachable pass.transport = true ∧ Candidate.of peer client ∈ pass.audience := by
  obtain ⟨own, present, same⟩ := List.mem_map.mp joined
  obtain ⟨client, rfl, known, listed, reached⟩ := proper.candidate_of_found found present same
  exact ⟨client, known, listed, reached, present⟩

/-- A peer with client data that is served takes part and is free. -/
theorem present_of_served {peer : Peer} {client : Client}
    (found : pass.directory.find? peer.id = some peer) (known : peer.client = some client)
    (served : pass.serves peer = true) :
    Candidate.of peer client ∈ pass.audience ∧ pass.busy peer.id = false := by
  obtain ⟨listed, free, reached⟩ := pass.serves_iff.mp served
  exact ⟨proper.mem_audience.mpr ⟨peer, client, found, listed, reached, known, rfl⟩, free⟩

theorem served_of_present {own : Candidate} (present : own ∈ pass.audience)
    (free : pass.busy own.id = false) :
    ∃ peer client, pass.directory.find? peer.id = some peer ∧ peer.client = some client ∧
      own = Candidate.of peer client ∧ pass.serves peer = true := by
  obtain ⟨peer, client, found, listed, reached, known, rfl⟩ := proper.mem_audience.mp present
  exact ⟨peer, client, found, known, rfl, pass.serves_iff.mpr ⟨listed, free, reached⟩⟩

theorem stateBefore_of_split {earlier later : List Candidate} {own : Candidate}
    (split : pass.audience = earlier ++ own :: later) :
    pass.stateBefore own.id =
      earlier.foldl (Fanout.turn pass.context pass.audience) pass.beginning := by
  rw [stateBefore, Candidate.takeWhile_of_split proper.nodup_audience split]

omit proper in
/-- What one turn does: it changes the receiver and hands over what it is sent. -/
theorem turn_spec {peer : Peer} {client : Client}
    (here : pass.directory.find? peer.id = some peer) (known : peer.client = some client)
    (reached : peer.reachable pass.transport = true)
    (still : (pass.stateBefore peer.id).directory.find? peer.id = some peer)
    (active : (pass.stateBefore peer.id).transport.hasActiveAddress peer.id = true) :
    let before := pass.stateBefore peer.id
    let after := Fanout.turn pass.context pass.audience before (Candidate.of peer client)
    (∀ id, after.directory.find? id =
      if id = peer.id then some (pass.turned peer) else before.directory.find? id) ∧
    after.transport = before.transport.deliverAll
      (Parcel.addressed peer.id (pass.packetsOf (Candidate.of peer client))) ∧
    after.directory.lastSession = before.directory.lastSession := by
  intro before after
  have own_id : (Candidate.of peer client).id = peer.id := rfl
  cases occupied : pass.busy peer.id with
  | true =>
    have left : after = { before with
        counters := { before.counters with contended := before.counters.contended + 1 } } :=
      if_pos occupied
    rw [left]
    refine ⟨fun id => ?_, ?_, rfl⟩
    · split
      · next own =>
        rw [own, turned, occupied]
        exact still
      · rfl
    · simp [packetsOf, own_id, occupied, Parcel.addressed]
  | false =>
    have looked : before.directory.client? peer.id = some client := by
      rw [Directory.client?, still]
      exact known
    have left : after = Fanout.serve pass.context pass.audience (Candidate.of peer client)
        client.receiver before := by
      change Fanout.turn _ _ before _ = _
      rw [Fanout.turn, if_neg (by simp [context, own_id, occupied]), own_id, looked]
    obtain ⟨directory, -, transport⟩ := Fanout.serve_spec pass.context pass.audience
      (Candidate.of peer client) client.receiver before active
    rw [left]
    refine ⟨fun id => ?_, ?_, ?_⟩
    · rw [directory, Directory.find?_modifyClient, own_id]
      by_cases own : id = peer.id
      · rw [if_pos own, if_pos own, own, show before.directory.find? peer.id = some peer from still]
        simp only [turned, occupied, reached, Bool.not_true, Bool.or_false, Bool.false_eq_true,
          if_false, Peer.mapClient, known, Option.map_some]
        rfl
      · rw [if_neg own, if_neg own]
    · have sent : pass.packetsOf (Candidate.of peer client) =
          (pass.visit (Candidate.of peer client) client.receiver).packets := by
        simp [packetsOf, own_id, occupied, Directory.client?, here, known]
      rw [transport, sent]
      rfl
    · rw [directory, Directory.lastSession_modifyClient]

/-- What each turn does, among all the others. -/
theorem served_along :
    let served := pass.audience.foldl (Fanout.turn pass.context pass.audience) pass.beginning
    (∀ id, served.directory.find? id =
      if id ∈ pass.audience.map Candidate.id then (pass.directory.find? id).map pass.turned
      else pass.directory.find? id) ∧
    served.transport = pass.transport.deliverAll pass.mail ∧
    served.directory.lastSession = pass.directory.lastSession := by
  -- What holds of the turns so far names the receivers that had theirs.
  apply foldl_along _ (fun earlier (state : PassState) =>
    (∀ id, state.directory.find? id =
      if id ∈ earlier.map Candidate.id then (pass.directory.find? id).map pass.turned
      else pass.directory.find? id) ∧
    state.transport = pass.transport.deliverAll
      (earlier.flatMap fun own => Parcel.addressed own.id (pass.packetsOf own)) ∧
    state.directory.lastSession = pass.directory.lastSession)
  · exact ⟨fun id => rfl, rfl, rfl⟩
  intro earlier own later split held
  rw [← proper.stateBefore_of_split split] at held ⊢
  obtain ⟨found, delivered, last⟩ := held
  have fresh := Candidate.not_mem_of_split proper.nodup_audience split
  have present : own ∈ pass.audience := by simp [split]
  obtain ⟨peer, client, here, -, reached, known, rfl⟩ := proper.mem_audience.mp present
  have own_id : (Candidate.of peer client).id = peer.id := rfl
  rw [own_id] at found delivered last fresh ⊢
  have still : (pass.stateBefore peer.id).directory.find? peer.id = some peer := by
    rw [found, if_neg fresh, here]
  have active : (pass.stateBefore peer.id).transport.hasActiveAddress peer.id = true := by
    rw [delivered, Loopback.hasActiveAddress_deliverAll]
    exact ((Bool.and_eq_true _ _).mp reached).2
  obtain ⟨turned, sent, sameLast⟩ := turn_spec here known reached still active
  refine ⟨fun id => ?_, ?_, sameLast.trans last⟩
  · rw [turned, found]
    by_cases this : id = peer.id
    · simp [this, here, own_id]
    · simp [this, own_id]
  · rw [sent, delivered, ← Loopback.deliverAll_append, List.flatMap_append,
      List.flatMap_singleton, own_id]

omit proper in
/-- Taking the snapshots changes each listed peer by itself. -/
theorem find?_snapshotAll (distinct : pass.order.Nodup) {directory : Directory}
    (keyed : directory.Keyed) (id : PeerId) :
    (Fanout.snapshotAll pass.busy pass.order directory).find? id =
      (directory.find? id).map fun peer =>
        if pass.order.contains peer.id then pass.snapped peer else peer := by
  have changes (directory : Directory) (id other : PeerId) :
      (if pass.busy id then directory
        else directory.modifyClient id fun client =>
          { client with avatar := client.avatar.snapshotJoints }).find? other =
      if other = id then
        (directory.find? other).map fun peer =>
          if pass.busy id then peer
          else peer.mapClient fun client => { client with avatar := client.avatar.snapshotJoints }
      else directory.find? other := by
    split
    · simp
    · rw [Directory.find?_modifyClient]
  obtain ⟨within, without⟩ := Directory.find?_foldl _ (fun id => id) _ changes
    (by rwa [List.map_id']) directory
  by_cases listed : id ∈ pass.order
  · refine (within id listed).trans ?_
    cases found : directory.find? id with
    | none => rfl
    | some peer => simp [snapped, keyed found, listed]
  · refine (without id (by rwa [List.map_id'])).trans ?_
    cases found : directory.find? id with
    | none => rfl
    | some peer => simp [keyed found, listed]

/-- What a pass does to the directory: it changes each peer by itself. -/
theorem find?_result (id : PeerId) :
    pass.result.1.directory.find? id = (pass.directory.find? id).map pass.passed := by
  obtain ⟨turns, -, -⟩ := proper.served_along
  have still (peer : Peer) : (pass.turned peer).id = peer.id :=
    Peer.id_eq_of_key (pass.key_turned peer)
  have keyed : (pass.audience.foldl (Fanout.turn pass.context pass.audience)
      pass.beginning).directory.Keyed := by
    intro id peer found
    rw [turns] at found
    split at found
    · obtain ⟨before, there, rfl⟩ := Option.map_eq_some_iff.mp found
      exact (still before).trans (proper.keyed there)
    · exact proper.keyed found
  refine (find?_snapshotAll proper.distinct keyed id).trans ?_
  rw [turns]
  cases found : pass.directory.find? id with
  | none => simp
  | some peer =>
    have same : peer.id = id := proper.keyed found
    subst same
    by_cases listed : peer.id ∈ pass.order
    · have turn : (if peer.id ∈ pass.audience.map Candidate.id then
          (some peer).map pass.turned else some peer) = some (pass.turned peer) := by
        split
        · rfl
        · next absent => rw [turned_of_absent found listed absent]
      rw [turn]
      simp [passed, listed, still]
    · have absent : peer.id ∉ pass.audience.map Candidate.id := fun present =>
        listed ((Candidate.gather_ids_sublist proper.keyed _ _).subset present)
      simp [passed, listed, absent]

/-- A pass hands over its mail and does nothing else to the transport. -/
theorem transport_result :
    pass.result.1.transport = pass.transport.deliverAll pass.mail :=
  proper.served_along.2.1

theorem lastSession_result :
    pass.result.1.directory.lastSession = pass.directory.lastSession := by
  refine (Directory.lastSession_foldl _ ?_ pass.order _).trans proper.served_along.2.2
  intro directory id
  split <;> rfl

theorem packetsTo_mail {own : Candidate} (present : own ∈ pass.audience) :
    Parcel.packetsTo own.id pass.mail = pass.packetsOf own :=
  Parcel.packetsTo_flatMap Candidate.id pass.packetsOf proper.nodup_audience present

end Proper

/-! ## What a receiver remembers -/

theorem identities_visit (own : Candidate) (receiver : Receiver) :
    ∀ packet ∈ (pass.visit own receiver).identities,
      ∃ avatar identity, packet = .avatarIdentity avatar identity := by
  intro packet due
  obtain ⟨other, -, -, identity, rfl⟩ :=
    (Visit.identities_foldl _ _ _ due).resolve_left List.not_mem_nil
  exact ⟨other.id, identity, rfl⟩

/-- Whoever a served receiver remembers it remembered before, or is one of the others. -/
theorem remembers_visit {own : Candidate} {receiver : Receiver} {other : PeerId}
    (remembered : (pass.visit own receiver).receiver.remembers other = true) :
    receiver.remembers other = true ∨
      ∃ candidate ∈ pass.audience, candidate.id = other ∧ own.id ≠ other := by
  refine (Visit.remembers_foldl _ _ _ remembered).imp_left fun before => ?_
  rw [← before]
  exact (receiver.remembers_prepare _ _ other).symm

/-- Whoever a peer remembers after a pass it remembered before, or is one of the others
that took part. -/
theorem remembers_passed {peer : Peer} {other : PeerId}
    (remembered : (pass.passed peer).remembers other = true) :
    peer.remembers other = true ∨
      other ≠ peer.id ∧ ∃ candidate ∈ pass.audience, candidate.id = other := by
  obtain ⟨change, passed, changes⟩ := pass.passed_spec peer
  rw [passed, Peer.remembers, Peer.client_mapClient, Option.any_map] at remembered
  cases known : peer.client with
  | none =>
    rw [known] at remembered
    cases remembered
  | some client =>
    rw [known, Option.any_some, (changes client).2] at remembered
    rw [Peer.remembers, known, Option.any_some]
    split at remembered
    · rw [Visit.remembers_settled] at remembered
      refine (remembers_visit remembered).imp_right ?_
      rintro ⟨candidate, present, rfl, apart⟩
      exact ⟨Ne.symm apart, candidate, present, rfl⟩
    · exact Or.inl remembered

theorem visit_of_absent (own : Candidate) (receiver : Receiver) {id : PeerId}
    (absent : id ∉ pass.audience.map Candidate.id) :
    (pass.visit own receiver).batch.contains id = false ∧
      (pass.visit own receiver).receiver.lastForwarded[id]? = receiver.lastForwarded[id]? := by
  constructor
  · exact Visit.contains_foldl_of_not_mem _ _ _ absent
  · refine (Visit.lastForwarded_foldl_of_not_mem _ _ _ absent).trans ?_
    exact congrArg (·[id]?) (receiver.prepare_keeps _ _).1

namespace Proper

variable (proper : pass.Proper)

include proper

/-- One who takes part is forwarded when it passes the test of its visit, and then its
number is noted. -/
theorem visit_of_present (own : Candidate) (receiver : Receiver) {other : Candidate}
    (present : other ∈ pass.audience) :
    let forwarded := (pass.visitBefore own receiver other.id).forwards pass.context own other
    (pass.visit own receiver).batch.contains other.id = forwarded ∧
      (pass.visit own receiver).receiver.lastForwarded[other.id]? =
        if forwarded then some other.sender.latest else receiver.lastForwarded[other.id]? := by
  obtain ⟨earlier, later, split⟩ := List.append_of_mem present
  obtain ⟨noted, pushed⟩ := Visit.foldl_of_split pass.context own
    (Visit.start (receiver.prepare pass.context.settings.controller pass.context.now)
      (pass.stateBefore own.id).random (pass.stateBefore own.id).counters)
    proper.nodup_audience split
  rw [visitBefore, Candidate.takeWhile_of_split proper.nodup_audience split]
  constructor
  · exact pushed.trans (Bool.or_false _)
  · refine noted.trans ?_
    rw [Visit.start, (receiver.prepare_keeps _ _).1]
    rfl

/-- The batch has the segments of those who pass the test of their visits. -/
theorem mem_batch (own : Candidate) (receiver : Receiver) {segment : Segment} :
    segment ∈ (pass.visit own receiver).batch.segments ↔ ∃ other ∈ pass.audience,
      (pass.visitBefore own receiver other.id).forwards pass.context own other = true ∧
        segment = (pass.visitBefore own receiver other.id).segmentFor pass.context own other := by
  have visited {earlier later : List Candidate} {other : Candidate}
      (split : pass.audience = earlier ++ other :: later) :
      pass.visitBefore own receiver other.id =
        Fanout.visits pass.context earlier own receiver (pass.stateBefore own.id) := by
    rw [visitBefore, Candidate.takeWhile_of_split proper.nodup_audience split]
  rw [visit, Fanout.visits, Visit.mem_segments_foldl]
  constructor
  · rintro (before | ⟨earlier, other, later, split, forwarded, rfl⟩)
    · cases before
    · refine ⟨other, by simp [split], ?_⟩
      rw [visited split]
      exact ⟨forwarded, rfl⟩
  · rintro ⟨other, present, forwarded, rfl⟩
    obtain ⟨earlier, later, split⟩ := List.append_of_mem present
    rw [visited split] at forwarded ⊢
    exact Or.inr ⟨earlier, other, later, split, forwarded, rfl⟩

/-- The entry of a visited candidate stays as it was until its visit comes. -/
theorem lastForwarded_visitBefore (own : Candidate) (receiver : Receiver) {other : Candidate}
    (present : other ∈ pass.audience) :
    (pass.visitBefore own receiver other.id).receiver.lastForwarded[other.id]? =
      receiver.lastForwarded[other.id]? := by
  obtain ⟨earlier, later, split⟩ := List.append_of_mem present
  have fresh := Candidate.not_mem_of_split proper.nodup_audience split
  rw [visitBefore, Candidate.takeWhile_of_split proper.nodup_audience split]
  refine (Visit.lastForwarded_foldl_of_not_mem _ _ _ fresh).trans ?_
  exact congrArg (·[other.id]?) (receiver.prepare_keeps _ _).1

theorem packetsTo_of_served {peer : Peer} {client : Client} (known : peer.client = some client)
    (found : pass.directory.find? peer.id = some peer) (served : pass.serves peer = true) :
    Parcel.packetsTo peer.id pass.mail =
      (pass.visit (Candidate.of peer client) client.receiver).packets := by
  obtain ⟨present, free⟩ := proper.present_of_served found known served
  refine (proper.packetsTo_mail present).trans ?_
  have own_id : (Candidate.of peer client).id = peer.id := rfl
  simp only [packetsOf, own_id, free, Directory.client?, found, Option.bind_some, known,
    Bool.false_eq_true, if_false]

theorem packetsTo_of_unserved {peer : Peer} (found : pass.directory.find? peer.id = some peer)
    (unserved : pass.serves peer = false ∨ peer.client = none) :
    Parcel.packetsTo peer.id pass.mail = [] := by
  by_cases joined : peer.id ∈ pass.audience.map Candidate.id
  · obtain ⟨client, known, listed, reached, present⟩ := proper.present_of_found found joined
    rcases unserved with unserved | silent
    · have occupied : pass.busy peer.id = true := by
        simpa [serves, listed, reached] using unserved
      exact (proper.packetsTo_mail present).trans (if_pos occupied)
    · rw [silent] at known
      cases known
  · exact packetsTo_mail_of_absent joined

/-- What a pass leaves of the entries about a connected peer: the latest number of
those that were forwarded. -/
theorem lastForwarded_passed {receiver sender : Peer}
    (receives : pass.directory.find? receiver.id = some receiver)
    (sends : pass.directory.find? sender.id = some sender) :
    (pass.passed receiver).lastForwarded sender.id =
      if Parcel.forwards pass.mail receiver.id sender.id then sender.latest
      else receiver.lastForwarded sender.id := by
  obtain ⟨change, passed, changes⟩ := pass.passed_spec receiver
  rw [passed, Peer.lastForwarded, Peer.client_mapClient, Peer.lastForwarded]
  cases known : receiver.client with
  | none =>
    have quiet := proper.packetsTo_of_unserved receives (Or.inr known)
    simp [Parcel.forwards, quiet]
  | some client =>
    rw [Option.map_some, Option.bind_some, Option.bind_some, (changes client).2]
    cases served : pass.serves receiver with
    | false =>
      have quiet := proper.packetsTo_of_unserved receives (Or.inl served)
      simp [Parcel.forwards, quiet]
    | true =>
      have carried : Parcel.forwards pass.mail receiver.id sender.id =
          (pass.visit (Candidate.of receiver client) client.receiver).batch.contains
            sender.id := by
        rw [Parcel.forwards, proper.packetsTo_of_served known receives served]
        exact Visit.any_packets_forwards _ _ (identities_visit _ _)
      rw [if_pos rfl, Visit.lastForwarded_settled, carried]
      by_cases joined : sender.id ∈ pass.audience.map Candidate.id
      · obtain ⟨data, sending, -, -, present⟩ := proper.present_of_found sends joined
        obtain ⟨contained, noted⟩ := proper.visit_of_present (Candidate.of receiver client)
          client.receiver present
        have other_id : (Candidate.of sender data).id = sender.id := rfl
        rw [other_id] at contained noted
        rw [contained, noted, Peer.latest, sending]
        rfl
      · obtain ⟨contained, noted⟩ := visit_of_absent (Candidate.of receiver client)
          client.receiver joined
        rw [contained, noted, if_neg Bool.false_ne_true]

theorem of_forwards {receiver : Peer} {sender : PeerId}
    (receives : pass.directory.find? receiver.id = some receiver)
    (forwarded : Parcel.forwards pass.mail receiver.id sender = true) :
    pass.serves receiver = true ∧ sender ≠ receiver.id ∧
      sender ∈ pass.audience.map Candidate.id := by
  have busyless (quiet : Parcel.packetsTo receiver.id pass.mail = []) : False := by
    rw [Parcel.forwards, quiet] at forwarded
    cases forwarded
  cases known : receiver.client with
  | none => exact (busyless (proper.packetsTo_of_unserved receives (Or.inr known))).elim
  | some client =>
    cases served : pass.serves receiver with
    | false => exact (busyless (proper.packetsTo_of_unserved receives (Or.inl served))).elim
    | true =>
      rw [Parcel.forwards, proper.packetsTo_of_served known receives served,
        Visit.any_packets_forwards _ _ (identities_visit _ _)] at forwarded
      by_cases joined : sender ∈ pass.audience.map Candidate.id
      · obtain ⟨other, present, rfl⟩ := List.mem_map.mp joined
        rw [(proper.visit_of_present _ _ present).1] at forwarded
        exact ⟨rfl, Ne.symm (Visit.apart_of_forwards _ _ _ _ forwarded), joined⟩
      · rw [(visit_of_absent _ _ joined).1] at forwarded
        cases forwarded

/-- Whoever is forwarded to anyone is a connected agent with client data. -/
theorem sender_of_forwards {receiver sender : PeerId}
    (forwarded : Parcel.forwards pass.mail receiver sender = true) :
    ∃ peer client, pass.directory.find? sender = some peer ∧
      peer.role.carriesAvatar = true ∧ peer.client = some client := by
  by_cases joined : receiver ∈ pass.audience.map Candidate.id
  · obtain ⟨own, present, rfl⟩ := List.mem_map.mp joined
    obtain ⟨peer, client, there, -, -, -, rfl⟩ := proper.mem_audience.mp present
    obtain ⟨-, -, joins⟩ := proper.of_forwards there forwarded
    obtain ⟨other, among, rfl⟩ := List.mem_map.mp joins
    obtain ⟨shown, data, found, -, reached, given, rfl⟩ := proper.mem_audience.mp among
    exact ⟨shown, data, found, ((Bool.and_eq_true _ _).mp reached).1, given⟩
  · rw [Parcel.forwards, packetsTo_mail_of_absent joined] at forwarded
    cases forwarded

end Proper

end Pass

end AvatarRelay
