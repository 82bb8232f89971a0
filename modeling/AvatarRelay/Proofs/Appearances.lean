/-
# Appearances

A pass shows whoever has client data, and a session of an agent has client data from its first
packet about its avatar on, whatever becomes of that packet. Beside a run stands the record of
the sessions that have sent such a packet: they are exactly those with client data. As long as
nothing was accepted from one of them its avatar is the one that it was created with, and the
number it holds is zero, which never counts as sent; so it is shown at the origin, at every
tick that admits it.
-/

import AvatarRelay.Proofs.News

namespace AvatarRelay

def InboundPacket.aboutAvatar : InboundPacket → Bool
  | avatarData .. | avatarIdentity .. => true
  | killAvatar | nodeIgnore .. | radiusIgnore .. => false

namespace Relay

/-- An operation brings a packet of a session about its avatar. Only agents have one. -/
def speaks (relay : Relay) (sender : SessionKey) : Operation → Bool
  | .receive id bytes _ =>
    match relay.directory.find? id, InboundPacket.format.decode bytes with
    | some peer, .ok packet =>
      if peer.key = sender then peer.role.carriesAvatar && packet.aboutAvatar else false
    | _, _ => false
  | .connect .. | .disconnect .. | .rewire .. | .tick .. => false

def hasSpoken (relay : Relay) (sender : SessionKey) : List Operation → Bool
  | [] => false
  | operation :: rest =>
    relay.speaks sender operation || (relay.apply operation).hasSpoken sender rest

end Relay

theorem Avatar.encodeUpdate_of_blank {avatar : Avatar} (bounds : ScaleBounds)
    (blank : avatar.pose = default) (full : Bool) :
    avatar.encodeUpdate full = (Avatar.new bounds).encodeUpdate full := by
  have same : avatar.update full = (Avatar.new bounds).update full := by
    rw [update, blank]
    rfl
  rw [encodeUpdate, same, encodeUpdate]

namespace Peer

/-- A packet about the avatar begins the client data of an agent, and no other packet does. -/
theorem isSome_client_sending (bounds : ScaleBounds) (packet : InboundPacket) (bytes : Nat)
    (now : Instant) (peer : Peer) :
    (peer.sending bounds packet bytes now).client.isSome =
      (peer.client.isSome || (peer.role.carriesAvatar && packet.aboutAvatar)) := by
  cases packet with
  | avatarData number pose =>
    rw [sending, client?]
    cases peer.role.carriesAvatar <;> simp [InboundPacket.aboutAvatar, withClient]
  | avatarIdentity identity =>
    rw [sending, client?]
    cases peer.role.carriesAvatar <;> simp [InboundPacket.aboutAvatar, withClient]
  | killAvatar => simp [sending, InboundPacket.aboutAvatar]
  | nodeIgnore others enabled =>
    simp [sending, InboundPacket.aboutAvatar, (peer.setIgnored_keeps others enabled).2.2]
  | radiusIgnore enabled => simp [sending, InboundPacket.aboutAvatar, setBubble]

/-- A packet with which nothing is accepted leaves the pose as it is, or as that of an avatar
that it has created. -/
theorem pictured_sending {bounds : ScaleBounds} {packet : InboundPacket} {bytes : Nat}
    {now : Instant} {peer : Peer} (quiet : peer.acceptedPose bounds packet bytes now = none) :
    (peer.sending bounds packet bytes now).pictured = peer.pictured ∨
      (peer.sending bounds packet bytes now).pictured = some (default, bounds) := by
  -- Client data that is changed without its pose was there before, or is new.
  have kept {client after : Client} (known : peer.client? bounds = some client)
      (same : (peer.sending bounds packet bytes now).client = some after)
      (pose : after.avatar.pose = client.avatar.pose ∧
        after.avatar.bounds = client.avatar.bounds) :
      (peer.sending bounds packet bytes now).pictured = peer.pictured ∨
        (peer.sending bounds packet bytes now).pictured = some (default, bounds) := by
    rw [pictured, same, Option.map_some, pose.1, pose.2]
    rcases client_of_client? known with held | ⟨-, rfl⟩
    · exact Or.inl (by rw [pictured, held, Option.map_some])
    · exact Or.inr rfl
  rcases peer.client_sending bounds packet bytes now with
    ⟨number, pose, client, rfl, known, same⟩ | ⟨identity, client, rfl, known, same⟩ | ⟨-, same⟩
  · rcases client.applyUpdate_spec number pose bytes now with ⟨taken, -⟩ | ⟨-, avatar⟩
    · simp only [acceptedPose, known] at quiet
      rw [if_pos taken] at quiet
      cases quiet
    · exact kept known same (by rw [avatar]; exact ⟨rfl, rfl⟩)
  · exact kept known same (client.pose_applyIdentity identity now)
  · exact Or.inl (by rw [pictured, same, pictured])

/-- A peer has client data exactly if it has sent a packet about its avatar; and as long as
nothing was accepted from it, its avatar is the one that it was created with. -/
structure Appears (spoken : Bool) (accepted : Option Pose) (peer : Peer) : Prop where
  present : peer.client.isSome = spoken
  unheard : accepted = none → peer.sender.hasUpdate = false
  blank : accepted = none → ∀ {pose bounds}, peer.pictured = some (pose, bounds) → pose = default

namespace Appears

variable {spoken : Bool} {accepted : Option Pose} {peer after : Peer}

theorem new (accepted : Option Pose) (id : PeerId) (role : Role) (session : Nat) :
    (Peer.new id role session).Appears false accepted where
  present := rfl
  unheard _ := rfl
  blank _ _ _ seen := by cases seen

theorem of_eq (appears : peer.Appears spoken accepted)
    (client : after.client.isSome = peer.client.isSome)
    (hasUpdate : after.sender.hasUpdate = peer.sender.hasUpdate)
    (pictured : after.pictured = peer.pictured) : after.Appears spoken accepted where
  present := client.trans appears.present
  unheard none := hasUpdate.trans (appears.unheard none)
  blank none _ _ seen := appears.blank none (pictured.symm.trans seen)

theorem purgedOfAll (appears : peer.Appears spoken accepted) (busy : Bool)
    (departed : List PeerId) : (peer.purgedOfAll busy departed).Appears spoken accepted :=
  appears.of_eq (Peer.isSome_client_purgedOfAll _ _)
    (congrArg Sender.hasUpdate (Peer.sender_purgedOfAll _ _ _)) (Peer.pictured_purgedOfAll _ _ _)

/-- What holds of a peer holds again after a packet, with what the packet is about and what was
accepted with it. -/
theorem sending (appears : peer.Appears spoken accepted) (bounds : ScaleBounds)
    (packet : InboundPacket) (bytes : Nat) (now : Instant) :
    (peer.sending bounds packet bytes now).Appears
      (spoken || (peer.role.carriesAvatar && packet.aboutAvatar))
      ((peer.acceptedPose bounds packet bytes now).or accepted) where
  present := by rw [isSome_client_sending, appears.present]
  unheard none := by
    obtain ⟨quiet, before⟩ := Option.or_eq_none_iff.mp none
    rcases peer.sender_sending bounds packet bytes now with ⟨number, taken, -⟩ | ⟨-, same, -⟩
    · unfold acceptedNumber at taken
      split at taken
      · rw [quiet] at taken
        cases taken
      · cases taken
    · exact same.trans (appears.unheard before)
  blank none pose limits seen := by
    obtain ⟨quiet, before⟩ := Option.or_eq_none_iff.mp none
    rcases pictured_sending quiet with same | created
    · exact appears.blank before (same.symm.trans seen)
    · rw [created] at seen
      cases seen
      rfl

end Appears

end Peer

namespace Relay

variable {relay : Relay} {sender : SessionKey} {spoken : Bool} {accepted : Option Pose}

theorem appears_ticked {peer : Peer} (appears : peer.Appears spoken accepted)
    (order : VisitOrder) (busy : SessionKey → Bool) (began ended : Instant) (reported : Bool) :
    (relay.ticked order busy began ended reported peer).Appears spoken accepted := by
  refine appears.of_eq ?_ ?_ ?_
  · rw [relay.ticked_keeps order busy began ended (·.client.isSome) fun _ => Option.isSome_map,
      Pass.isSome_client_passed, Peer.isSome_client_purgedOfAll]
  · exact relay.sender_ticked order busy began ended Sender.hasUpdate (fun _ _ => rfl) reported peer
  · rw [relay.ticked_keeps order busy began ended Peer.pictured fun peer =>
        peer.pictured_mapClient fun _ => ⟨rfl, rfl⟩, Pass.pictured_passed,
      Peer.pictured_purgedOfAll]

/-- A packet leaves a session as it is, unless it comes from the session and can be read. -/
theorem appears_heard (formed : relay.directory.WellFormed) {peer : Peer}
    (there : relay.directory.findSession? sender = some peer)
    (appears : peer.Appears spoken accepted) (id : PeerId) (bytes : Bytes) (now : Instant) :
    (relay.heard id bytes now peer).Appears
      (spoken || relay.speaks sender (.receive id bytes now))
      ((relay.acceptedBy sender (.receive id bytes now)).or accepted) := by
  rcases heard_cases formed there id bytes now with
    ⟨packet, found, own, decoded, heard⟩ | ⟨heard, apart⟩
  · rw [heard]
    simp only [speaks, acceptedBy, found, decoded, own, if_true]
    exact appears.sending _ _ _ _
  · have silent : relay.speaks sender (.receive id bytes now) = false := by
      simp only [speaks]
      split
      · next other packet found decoded => exact if_neg (apart other packet found decoded)
      · rfl
    have quiet : relay.acceptedBy sender (.receive id bytes now) = none := by
      simp only [acceptedBy]
      split
      · next other packet found decoded => exact if_neg (apart other packet found decoded)
      · rfl
    rw [heard, silent, quiet, Bool.or_false, Option.none_or]
    exact appears

/-- As long as a session is connected, it appears as what is on record of it. -/
structure Presents (relay : Relay) (sender : SessionKey) (spoken : Bool) (accepted : Option Pose) :
    Prop where
  formed : relay.directory.WellFormed
  /-- Only sessions that have begun are on record. -/
  begun : spoken = true → sender.session ≤ relay.directory.lastSession
  appears : ∀ {peer}, relay.directory.findSession? sender = some peer →
    peer.Appears spoken accepted

/-- Only a session that has begun speaks. -/
theorem begun_of_speaks (formed : relay.directory.WellFormed) {operation : Operation}
    (speaks : relay.speaks sender operation = true) :
    sender.session ≤ relay.directory.lastSession := by
  cases operation with
  | receive id bytes now =>
    simp only [Relay.speaks] at speaks
    split at speaks
    · next peer packet found decoded =>
      split at speaks
      · next own =>
        rw [← own]
        exact formed.numbered found
      · cases speaks
    · cases speaks
  | connect _ _ | disconnect _ | rewire _ | tick _ _ _ _ => cases speaks

namespace Presents

theorem opened (config : Config) (fanout : Fanout) (sender : SessionKey) :
    (Relay.opened config fanout).Presents sender false none where
  formed := Directory.WellFormed.empty
  begun spoken := by cases spoken
  appears {peer} found := by
    obtain ⟨there, -⟩ := (Directory.findSession?_eq_some_iff _).mp found
    rw [find?_opened] at there
    cases there

/-- Every operation keeps what is on record of a session true, with what the operation adds. -/
theorem apply (presents : relay.Presents sender spoken accepted) (operation : Operation) :
    (relay.apply operation).Presents sender (spoken || relay.speaks sender operation)
      ((relay.acceptedBy sender operation).or accepted) where
  formed := wellFormed_apply presents.formed operation
  begun known := by
    refine Nat.le_trans ?_ (lastSession_apply presents.formed operation)
    rcases (Bool.or_eq_true _ _).mp known with before | now
    · exact presents.begun before
    · exact begun_of_speaks presents.formed now
  appears {peer} found := by
    have formed := presents.formed
    by_cases late : relay.directory.lastSession < sender.session
    · -- The session has begun with this operation.
      have silent : (spoken || relay.speaks sender operation) = false := by
        rw [Bool.eq_false_iff]
        intro known
        rcases (Bool.or_eq_true _ _).mp known with before | now
        · exact absurd (presents.begun before) (Nat.not_le_of_lt late)
        · exact absurd (begun_of_speaks formed now) (Nat.not_le_of_lt late)
      obtain ⟨role, rfl⟩ := eq_new_of_late formed late found
      rw [silent]
      exact Peer.Appears.new _ _ _ _
    · obtain ⟨before, there, changes⟩ :=
        findSession?_apply formed (Nat.le_of_not_lt late) found
      have appears := presents.appears there
      cases operation with
      | receive id bytes now =>
        rw [show peer = _ from changes]
        exact appears_heard formed there appears id bytes now
      | tick order busy began ended =>
        obtain ⟨-, reported, rfl⟩ := changes
        rw [speaks, Bool.or_false]
        exact appears_ticked appears order busy began ended reported
      | connect _ _ | disconnect _ | rewire _ =>
        rw [show peer = before from changes, speaks, Bool.or_false]
        exact appears

theorem run (presents : relay.Presents sender spoken accepted) (operations : List Operation) :
    (relay.run operations).Presents sender (spoken || relay.hasSpoken sender operations)
      ((relay.lastAccepted sender operations).or accepted) := by
  induction operations generalizing relay spoken accepted with
  | nil =>
    rw [hasSpoken, Bool.or_false]
    exact presents
  | cons operation rest ih =>
    rw [hasSpoken, lastAccepted, ← Bool.or_assoc, Option.or_assoc]
    exact ih (presents.apply operation)

/-- A session that takes part in the pass of a tick appears as what is on record of it. -/
theorem appears_beforePass {sender : Peer} (presents : relay.Presents sender.key spoken accepted)
    {order : VisitOrder} {busy : SessionKey → Bool} {began : Instant}
    (sends : (relay.nextPass order busy began).directory.find? sender.id = some sender) :
    sender.Appears spoken accepted := by
  obtain ⟨before, found, -, purged⟩ :=
    relay.purged_beforePass order busy began presents.formed sends
  have key : before.key = sender.key := by rw [purged, Peer.key_purgedOfAll]
  have there : relay.directory.findSession? sender.key = some before :=
    (Directory.findSession?_eq_some_iff _).mpr ⟨found, congrArg SessionKey.session key⟩
  rw [purged]
  exact (presents.appears there).purgedOfAll _ _

end Presents

/-- A sender of which nothing was accepted holds the number zero, and nothing but this number was
ever sent of it: it is forwarded whenever it is admitted. -/
theorem Chronicled.forwards_of_unheard {sent : Option SequenceNumber}
    {record : SessionKey → SessionKey → Option SequenceNumber}
    (chronicled : relay.Chronicled record) {order : VisitOrder} {busy : SessionKey → Bool}
    {began : Instant} {receiver sender : Peer} {client data : Client} {news : List SequenceNumber}
    (meets : (relay.nextPass order busy began).Meets receiver client sender data)
    (informs : relay.Informs sender.key sent news)
    (shown : record receiver.key sender.key = sent)
    (unheard : sender.sender.hasUpdate = false) :
    let visit := (relay.nextPass order busy began).visitBefore (Candidate.of receiver client)
      client.receiver sender.id
    Parcel.forwards (relay.nextPass order busy began).mail receiver.id sender.id =
      visit.welcomes (relay.nextPass order busy began).context (Candidate.of receiver client)
        (Candidate.of sender data) := by
  intro visit
  have proper := relay.proper_nextPass order busy began chronicled.traced.formed
  have follows := informs.follows_beforePass meets.sends
  obtain ⟨zero, nothing⟩ := follows.blank unheard
  have last : visit.receiver.lastFrom sender.id = 0 := by
    have latest := follows.latest
    rw [nothing, List.getLastD_nil, zero] at latest
    rw [Receiver.lastFrom, chronicled.entry meets, shown, ← latest]
  have own : (Candidate.of sender data).sender = sender.sender :=
    (Peer.sender_of_client meets.given).symm
  rw [proper.forwards_of_meets meets, Visit.forwards, ← Visit.welcomes, own,
    show (Candidate.of sender data).id = sender.id from rfl, last, zero]
  exact Bool.and_true _

end Relay

/-- Who is shown. Every segment that a tick of a run sends is about a connected session that has
sent a packet about its avatar, accepted or not; and if no update of it was accepted yet, the
segment shows the avatar that was created for it. A session of which nothing was accepted is
forwarded at every tick that admits it. -/
theorem appearances_of_run (config : Config) (fanout : Fanout) (operations : List Relay.Operation)
    (order : VisitOrder) (busy : SessionKey → Bool) (began ended : Instant) :
    let start := Relay.opened config fanout
    let relay := start.run operations
    let pass := relay.nextPass order busy began
    (relay.tick order busy began ended).2.transport =
        relay.transport.deliverAll (relay.tickMail order busy began) ∧
      (∀ receiver batch, ⟨receiver, .bulkAvatarData batch⟩ ∈ relay.tickMail order busy began →
        ∀ segment ∈ batch.segments, ∃ sender,
          relay.directory.find? segment.sender = some sender ∧
          start.hasSpoken sender.key operations = true ∧
          (start.lastAccepted sender.key operations = none →
            ∃ full, segment.payload = (Avatar.new config.scaleBounds).encodeUpdate full)) ∧
      ∀ receiver client sender data, pass.Meets receiver client sender data →
        start.lastAccepted sender.key operations = none →
        Parcel.forwards (relay.tickMail order busy began) receiver.id sender.id =
          (pass.visitBefore (Candidate.of receiver client) client.receiver sender.id).welcomes
            pass.context (Candidate.of receiver client) (Candidate.of sender data) := by
  intro start relay pass
  have chronicled := (Relay.Chronicled.opened config fanout).run operations
  have formed : relay.directory.WellFormed := chronicled.traced.formed
  have proper : pass.Proper := relay.proper_nextPass order busy began formed
  have appears {sender : Peer} (there : pass.directory.find? sender.id = some sender) :
      sender.Appears (start.hasSpoken sender.key operations)
        (start.lastAccepted sender.key operations) := by
    have presents := (Relay.Presents.opened config fanout sender.key).run operations
    rw [Bool.false_or, Option.or_none] at presents
    exact presents.appears_beforePass there
  refine ⟨(relay.tick_keeps order busy began ended formed).1, ?_, ?_⟩
  · intro receiver batch sent segment listed
    obtain ⟨sender, data, full, there, given, rfl⟩ :=
      proper.segment_of_mail (Relay.bulk_of_tickMail order busy began formed sent) listed
    obtain ⟨connected, found, key⟩ := Relay.session_of_beforePass order busy began formed there
    refine ⟨connected, found, ?_, fun none => ⟨full, ?_⟩⟩
    · rw [key, ← (appears there).present, given, Option.isSome_some]
    · rw [key] at none
      have pictured : sender.pictured = some (data.avatar.pose, data.avatar.bounds) := by
        rw [Peer.pictured, given, Option.map_some]
      exact Avatar.encodeUpdate_of_blank _ ((appears there).blank none pictured) full
  · intro receiver client sender data meets none
    have informs := (Relay.Informs.opened config fanout sender.key).run receiver.key operations
    rw [Relay.forwards_tickMail formed]
    exact chronicled.forwards_of_unheard meets informs (by rw [Option.or_none])
      ((appears meets.sends).unheard none)

/-- An agent whose only update is refused is shown to another one at the origin. -/
theorem shown_after_refusal :
    let start := Relay.opened Config.standard (Fanout.ofSeed Config.standard.fanoutSettings 0)
    let nowhere : Pose := ⟨⟨Binary32.nan, 0, 0⟩, Quat.identity, 1, none, []⟩
    let operations : List Relay.Operation :=
      [.rewire (((Loopback.new 0).setAddress Relay.firstAgent true).setAddress Relay.secondAgent
          true),
        .connect Relay.firstAgent .agent, .connect Relay.secondAgent .agent,
        .receive Relay.firstAgent (InboundPacket.format.write (.avatarData 1 default)) 0,
        .receive Relay.secondAgent (InboundPacket.format.write (.avatarData 1 nowhere)) 0]
    start.lastAccepted ⟨Relay.secondAgent, 2⟩ operations = none ∧
      ∃ batch full, ⟨Relay.firstAgent, .bulkAvatarData batch⟩ ∈
          (start.run operations).tickMail .ascending (fun _ => false) 0 ∧
        ⟨Relay.secondAgent, (Avatar.new Config.standard.scaleBounds).encodeUpdate full⟩ ∈
          batch.segments := by
  intro start nowhere operations
  let pass := (start.run operations).nextPass .ascending (fun _ => false) 0
  let receiver := (pass.directory.find? Relay.firstAgent).getD (Peer.new Relay.firstAgent .agent 1)
  let sender := (pass.directory.find? Relay.secondAgent).getD (Peer.new Relay.secondAgent .agent 2)
  let client := receiver.client.getD (Client.new default)
  let data := sender.client.getD (Client.new default)
  have meets : pass.Meets receiver client sender data := by decide +kernel
  have own : receiver.id = Relay.firstAgent := by decide +kernel
  have key : sender.key = ⟨Relay.secondAgent, 2⟩ := by decide +kernel
  have other : sender.id = Relay.secondAgent := by decide +kernel
  have refused : start.lastAccepted ⟨Relay.secondAgent, 2⟩ operations = none := by decide +kernel
  have welcome : (pass.visitBefore (Candidate.of receiver client) client.receiver
      sender.id).welcomes pass.context (Candidate.of receiver client)
        (Candidate.of sender data) = true := by decide +kernel
  obtain ⟨-, shown, forwarded⟩ :=
    appearances_of_run Config.standard _ operations .ascending (fun _ => false) 0 0
  have sent := forwarded receiver client sender data meets (by rw [key, refused])
  rw [welcome, own, other] at sent
  obtain ⟨batch, listed, segment, among, sending⟩ := Parcel.forwards_iff.mp sent
  obtain ⟨peer, found, -, blank⟩ := shown _ batch listed segment among
  have session : ((start.run operations).directory.find? Relay.secondAgent).map Peer.key =
      some ⟨Relay.secondAgent, 2⟩ := by decide +kernel
  rw [sending] at found
  rw [found] at session
  obtain ⟨full, payload⟩ := blank (by rw [Option.some.inj session, refused])
  refine ⟨refused, batch, full, listed, ?_⟩
  rw [← payload, ← sending]
  exact among

end AvatarRelay
