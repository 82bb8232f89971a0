/-
# Poses

Which pose the relay holds of each session. Beside a run stands the record of the pose
that each session last had accepted, as it was read from the packet; the pose of the
avatar is that one, put right within the bounds of the configuration. Only an accepted
update changes it: packets that fail, packets about other things, and ticks leave it.
-/

import AvatarRelay.Proofs.Steps

namespace AvatarRelay

/-- The pose that is accepted of a peer with a packet: that of an update which is neither
stale nor refused. -/
def Peer.acceptedPose (peer : Peer) (bounds : ScaleBounds) (packet : InboundPacket)
    (bytes : Nat) (now : Instant) : Option Pose :=
  match packet, peer.client? bounds with
  | .avatarData number pose, some client =>
    if (client.applyUpdate number pose bytes now).2 = .accepted then some pose else none
  | _, _ => none

namespace Relay

def acceptedBy (relay : Relay) (sender : SessionKey) : Operation → Option Pose
  | .receive id bytes now =>
    match relay.directory.find? id, InboundPacket.format.decode bytes with
    | some peer, .ok packet =>
      if peer.key = sender then
        peer.acceptedPose relay.config.scaleBounds packet bytes.length now
      else none
    | _, _ => none
  | _ => none

def lastAccepted (relay : Relay) (sender : SessionKey) : List Operation → Option Pose
  | [] => none
  | operation :: rest =>
    ((relay.apply operation).lastAccepted sender rest).or (relay.acceptedBy sender operation)

end Relay

namespace Client

variable (client : Client)

/-- An update is accepted together with its pose, or leaves the avatar as it is. -/
theorem applyUpdate_spec (number : SequenceNumber) (pose : Pose) (bytes : Nat) (now : Instant) :
    let after := client.applyUpdate number pose bytes now
    (after.2 = .accepted ∧ Avatar.refuses pose = false ∧
      after.1.avatar =
        { client.avatar with pose := Avatar.sanitize client.avatar.bounds pose }) ∨
    (after.2 ≠ .accepted ∧ after.1.avatar = client.avatar) := by
  unfold applyUpdate
  dsimp only
  split
  · exact Or.inr ⟨Ingestion.noConfusion, rfl⟩
  · cases refused : Avatar.refuses pose with
    | true =>
      rw [Avatar.applyPose?, refused, if_pos rfl]
      exact Or.inr ⟨Ingestion.noConfusion, rfl⟩
    | false =>
      rw [Avatar.applyPose?, refused, if_neg Bool.false_ne_true]
      exact Or.inl ⟨rfl, rfl, rfl⟩

/-- An update that is accepted was not stale, and leaves its number; any other leaves the
number that was held. -/
theorem sender_applyUpdate (number : SequenceNumber) (pose : Pose) (bytes : Nat) (now : Instant) :
    let after := client.applyUpdate number pose bytes now
    (after.2 = .accepted ∧ client.sender.isStale number = false ∧
      after.1.sender.hasUpdate = true ∧ after.1.sender.latest = number) ∨
    (after.2 ≠ .accepted ∧
      (client.sender.isStale number = true ∨ Avatar.refuses pose = true) ∧
      after.1.sender.hasUpdate = client.sender.hasUpdate ∧
      after.1.sender.latest = client.sender.latest) := by
  have measured : Sender.isStale
      { client.sender with meter := client.sender.meter.record bytes now } number =
        client.sender.isStale number := rfl
  simp only [applyUpdate, measured]
  cases client.sender.isStale number with
  | true => exact Or.inr ⟨Ingestion.noConfusion, Or.inl rfl, rfl, rfl⟩
  | false =>
    cases refused : Avatar.refuses pose with
    | true =>
      rw [Avatar.applyPose?, refused, if_pos rfl]
      exact Or.inr ⟨Ingestion.noConfusion, Or.inr rfl, rfl, rfl⟩
    | false =>
      rw [Avatar.applyPose?, refused, if_neg Bool.false_ne_true]
      exact Or.inl ⟨rfl, rfl, rfl, rfl⟩

theorem pose_applyIdentity (identity : Identity) (now : Instant) :
    (client.applyIdentity identity now).1.avatar.pose = client.avatar.pose ∧
      (client.applyIdentity identity now).1.avatar.bounds = client.avatar.bounds := by
  unfold applyIdentity Avatar.applyIdentity?
  split
  · exact ⟨rfl, rfl⟩
  · next changed =>
    split at changed
    · cases changed
    · cases changed
      exact ⟨rfl, rfl⟩

theorem avatar_forgetAll (departed : List PeerId) :
    (client.forgetAll departed).avatar = client.avatar := by
  induction departed generalizing client with
  | nil => rfl
  | cons first rest ih => exact ih _

end Client

namespace Peer

/-- The pose that the relay holds of a peer and the bounds that it was brought into. -/
def pictured (peer : Peer) : Option (Pose × ScaleBounds) :=
  peer.client.map fun client => (client.avatar.pose, client.avatar.bounds)

theorem pictured_mapClient {change : Client → Client} (peer : Peer)
    (kept : ∀ client, (change client).avatar.pose = client.avatar.pose ∧
      (change client).avatar.bounds = client.avatar.bounds) :
    (peer.mapClient change).pictured = peer.pictured := by
  rw [pictured, client_mapClient, Option.map_map]
  refine congrArg (Option.map · peer.client) ?_
  funext client
  obtain ⟨pose, bounds⟩ := kept client
  rw [Function.comp_apply, pose, bounds]

theorem pictured_purgedOfAll (busy : Bool) (departed : List PeerId) (peer : Peer) :
    (peer.purgedOfAll busy departed).pictured = peer.pictured := by
  rw [pictured, client_purgedOfAll]
  split
  · rfl
  · refine peer.pictured_mapClient fun client => ?_
    rw [client.avatar_forgetAll]
    exact ⟨rfl, rfl⟩

theorem key_figured (busy : SessionKey → Bool) (now : Instant) (peer : Peer) :
    (peer.figured busy now).key = peer.key :=
  figured_keeps key (fun _ => rfl) busy peer

theorem pictured_figured (busy : SessionKey → Bool) (now : Instant) (peer : Peer) :
    (peer.figured busy now).pictured = peer.pictured :=
  figured_keeps pictured (fun peer => peer.pictured_mapClient fun _ => ⟨rfl, rfl⟩) busy peer

theorem pictured_setIgnored (others : List PeerId) (enabled : Bool) (peer : Peer) :
    (peer.setIgnored others enabled).pictured = peer.pictured := by
  rw [pictured, (peer.setIgnored_keeps others enabled).2.2, pictured]

end Peer

theorem Pass.pictured_passed (pass : Pass) (peer : Peer) :
    (pass.passed peer).pictured = peer.pictured := by
  have turned : (pass.turned peer).pictured = peer.pictured := by
    unfold Pass.turned
    split
    · rfl
    · exact peer.pictured_mapClient fun _ => ⟨rfl, rfl⟩
  have snapped (peer : Peer) : (pass.snapped peer).pictured = peer.pictured := by
    unfold Pass.snapped
    split
    · rfl
    · exact peer.pictured_mapClient fun _ => ⟨rfl, rfl⟩
  unfold Pass.passed
  split
  · rw [snapped, turned]
  · rfl

namespace Peer

/-- A peer's pose is within the limits, and is the one that was last accepted if one was. -/
structure Reflects (peer : Peer) (limits : ScaleBounds) (accepted : Option Pose) : Prop where
  bounds : ∀ {pose bounds}, peer.pictured = some (pose, bounds) → bounds = limits
  accepted : ∀ {pose}, accepted = some pose → Avatar.refuses pose = false ∧
    peer.pictured = some (Avatar.sanitize limits pose, limits)

namespace Reflects

variable {peer other : Peer} {limits : ScaleBounds} {accepted : Option Pose} {client : Client}

theorem blank (limits : ScaleBounds) (silent : peer.client = none) :
    peer.Reflects limits none where
  bounds seen := by
    rw [pictured, silent] at seen
    cases seen
  accepted shown := by cases shown

theorem of_pictured (reflects : peer.Reflects limits accepted)
    (same : other.pictured = peer.pictured) : other.Reflects limits accepted where
  bounds seen := reflects.bounds (same.symm.trans seen)
  accepted shown := by
    rw [same]
    exact reflects.accepted shown

/-- The client data that a packet finds, or begins, reflects the same. -/
theorem withClient (reflects : peer.Reflects limits accepted)
    (known : peer.client? limits = some client) :
    (peer.withClient client).Reflects limits accepted := by
  rcases client_of_client? known with held | ⟨held, rfl⟩
  · refine reflects.of_pictured ?_
    rw [pictured, pictured, held]
    rfl
  · refine ⟨fun seen => ?_, fun shown => ?_⟩
    · cases seen
      rfl
    · have seen := (reflects.accepted shown).2
      rw [pictured, held] at seen
      cases seen

/-- An update that is accepted is reflected from then on. -/
theorem update (reflects : peer.Reflects limits accepted)
    (known : peer.client? limits = some client) (number : SequenceNumber) (pose : Pose)
    (bytes : Nat) (now : Instant) :
    (peer.withClient (client.applyUpdate number pose bytes now).1).Reflects limits
      ((peer.acceptedPose limits (.avatarData number pose) bytes now).or accepted) := by
  have current := reflects.withClient known
  have bounds : client.avatar.bounds = limits := current.bounds rfl
  simp only [acceptedPose, known]
  rcases client.applyUpdate_spec number pose bytes now with
    ⟨taken, admitted, avatar⟩ | ⟨dropped, avatar⟩
  · rw [if_pos taken, Option.some_or]
    have seen : (peer.withClient (client.applyUpdate number pose bytes now).1).pictured =
        some (Avatar.sanitize limits pose, limits) := by
      rw [pictured, Peer.withClient, Option.map_some, avatar, bounds]
    refine ⟨fun here => ?_, fun shown => ?_⟩
    · rw [seen] at here
      cases here
      rfl
    · cases shown
      exact ⟨admitted, seen⟩
  · rw [if_neg dropped, Option.none_or]
    refine current.of_pictured ?_
    rw [pictured, Peer.withClient, Option.map_some, avatar]
    rfl

theorem identity (reflects : peer.Reflects limits accepted)
    (known : peer.client? limits = some client) (identity : Identity) (now : Instant) :
    (peer.withClient (client.applyIdentity identity now).1).Reflects limits accepted := by
  obtain ⟨pose, bounds⟩ := client.pose_applyIdentity identity now
  refine (reflects.withClient known).of_pictured ?_
  rw [pictured, Peer.withClient, Option.map_some, pose, bounds]
  rfl

end Reflects

end Peer

/-! ## All peers -/

namespace Relay

/-- Every connected peer's pose is the one on record for its session, if there is one,
brought within the limits of the configuration. -/
structure Portrays (relay : Relay) (limits : ScaleBounds) (record : SessionKey → Option Pose) :
    Prop where
  formed : relay.directory.WellFormed
  limited : relay.config.scaleBounds = limits
  reflects : ∀ {id peer}, relay.directory.find? id = some peer →
    peer.Reflects relay.config.scaleBounds (record peer.key)
  /-- Only sessions that have begun are on record. -/
  begun : ∀ {key}, record key ≠ none → key.session ≤ relay.directory.lastSession

theorem config_connect (relay : Relay) (id : PeerId) (role : Role) :
    (relay.connect id role).2.config = relay.config := by
  unfold connect
  dsimp only
  split <;> rfl

theorem config_applyEvent (relay : Relay) (order : VisitOrder) (event : PeerEvent) :
    (relay.applyEvent order event).config = relay.config := by
  have announced (relay : Relay) (peer : Peer) (reason : KillReason) :
      (relay.announce order peer reason).config = relay.config := by
    unfold announce
    split <;> rfl
  unfold applyEvent
  split
  · rfl
  · split
    · rfl
    · exact announced _ _ _

theorem config_beforePass (relay : Relay) (order : VisitOrder) (busy : SessionKey → Bool)
    (began : Instant) :
    (relay.beforePass order busy began).config = relay.config := by
  have applied (events : List PeerEvent) (relay : Relay) :
      (events.foldl (applyEvent order) relay).config = relay.config := by
    induction events generalizing relay with
    | nil => rfl
    | cons event rest ih => exact (ih _).trans (relay.config_applyEvent order event)
  exact applied _ (relay.timed began).drained

theorem config_tick (relay : Relay) (order : VisitOrder) (busy : SessionKey → Bool)
    (began ended : Instant) :
    (relay.tick order busy began ended).2.config = relay.config := by
  have reported (relay : Relay) : (relay.reportWindow order busy ended).config = relay.config := by
    unfold reportWindow
    split <;> rfl
  exact (reported _).trans (relay.config_beforePass order busy began)

namespace Portrays

variable {relay after : Relay} {limits : ScaleBounds} {record : SessionKey → Option Pose}

theorem opened (config : Config) (fanout : Fanout) :
    (Relay.opened config fanout).Portrays config.scaleBounds fun _ => none where
  formed := Directory.WellFormed.empty
  limited := rfl
  reflects found := by
    rw [find?_opened] at found
    cases found
  begun some := absurd rfl some

theorem of_kept (portrays : relay.Portrays limits record) (config : after.config = relay.config)
    (last : after.directory.lastSession = relay.directory.lastSession)
    (kept : ∀ {id peer}, after.directory.find? id = some peer →
      ∃ before, relay.directory.find? id = some before ∧ peer.key = before.key ∧
        peer.pictured = before.pictured) : after.Portrays limits record where
  formed := portrays.formed.of_kept last fun found => by
    obtain ⟨before, there, key, -⟩ := kept found
    exact ⟨before, there, key⟩
  limited := by rw [config, portrays.limited]
  reflects found := by
    obtain ⟨before, there, key, same⟩ := kept found
    rw [config, key]
    exact (portrays.reflects there).of_pictured same
  begun some := by
    rw [last]
    exact portrays.begun some

theorem of_eq (portrays : relay.Portrays limits record)
    (directory : after.directory = relay.directory) (config : after.config = relay.config) :
    after.Portrays limits record :=
  portrays.of_kept config (congrArg Directory.lastSession directory) fun {id peer} found =>
    ⟨peer, by rw [← directory, found], rfl, rfl⟩

/-- One peer is changed, and what is on record of its session with it. -/
theorem modifyPeer (portrays : relay.Portrays limits record) {peer : Peer} {change : Peer → Peer}
    (there : relay.directory.find? peer.id = some peer) (key : (change peer).key = peer.key)
    {later : SessionKey → Option Pose}
    (changed : (change peer).Reflects relay.config.scaleBounds (later peer.key))
    (others : ∀ other, other ≠ peer.key → later other = record other) :
    (relay.modifyPeer peer.id change).Portrays limits later := by
  refine ⟨portrays.formed.of_kept rfl fun {id found} connected => ?_, portrays.limited,
    fun {id found} connected => ?_, fun {known} shown => ?_⟩
  · rw [relay.find?_modifyPeer change there] at connected
    split at connected
    · next here =>
      cases connected
      exact ⟨peer, by rw [here, there], key⟩
    · exact ⟨found, connected, rfl⟩
  · rw [relay.find?_modifyPeer change there] at connected
    split at connected
    · cases connected
      rw [key]
      exact changed
    · next elsewhere =>
      have apart : found.key ≠ peer.key := by
        intro same
        exact elsewhere ((portrays.formed.keyed connected).symm.trans (Peer.id_eq_of_key same))
      rw [others _ apart]
      exact portrays.reflects connected
  · by_cases own : known = peer.key
    · rw [own]
      exact portrays.formed.numbered there
    · rw [others _ own] at shown
      exact portrays.begun shown

/-- A session that begins has nothing on record. -/
theorem connect (portrays : relay.Portrays limits record) (id : PeerId) (role : Role) :
    (relay.connect id role).2.Portrays limits record where
  formed := relay.wellFormed_connect portrays.formed id role
  limited := by rw [relay.config_connect id role, portrays.limited]
  reflects found := by
    rw [relay.config_connect id role]
    rw [find?_connect] at found
    split at found
    · cases found
      have fresh : record (Peer.new id role (relay.directory.lastSession + 1)).key = none := by
        by_contra known
        exact absurd (portrays.begun known) (Nat.not_succ_le_self _)
      rw [fresh]
      exact Peer.Reflects.blank _ rfl
    · exact portrays.reflects found
  begun some := by
    rw [(relay.connect_keeps id role).1]
    exact Nat.le_succ_of_le (portrays.begun some)

theorem beforePass (portrays : relay.Portrays limits record) (order : VisitOrder)
    (busy : SessionKey → Bool) (began : Instant) :
    (relay.beforePass order busy began).Portrays limits record := by
  have formed := portrays.formed
  refine portrays.of_kept (relay.config_beforePass order busy began)
    (relay.lastSession_beforePass order busy began formed) fun {id peer} found => ?_
  rw [relay.find?_beforePass order busy began formed, Option.map_eq_some_iff] at found
  obtain ⟨before, there, rfl⟩ := found
  exact ⟨before, (relay.settles_timed order began formed).find?_before there,
    Peer.key_purgedOfAll _ _, Peer.pictured_purgedOfAll _ _ before⟩

theorem tick (portrays : relay.Portrays limits record) (order : VisitOrder)
    (busy : SessionKey → Bool) (began ended : Instant) :
    (relay.tick order busy began ended).2.Portrays limits record := by
  have formed := portrays.formed
  obtain ⟨reported, left⟩ := relay.find?_tick_passed order busy began ended formed
  refine (portrays.beforePass order busy began).of_kept
    ((relay.config_tick order busy began ended).trans
      (relay.config_beforePass order busy began).symm)
    ((relay.tick_keeps order busy began ended formed).2.2.2.trans
      (relay.lastSession_beforePass order busy began formed).symm) fun {id peer} found => ?_
  rw [left, Option.map_eq_some_iff] at found
  obtain ⟨before, there, rfl⟩ := found
  refine ⟨before, there, ?_⟩
  cases reported with
  | false => exact ⟨Pass.key_passed _ before, Pass.pictured_passed _ before⟩
  | true =>
    exact ⟨(Peer.key_figured _ _ _).trans (Pass.key_passed _ before),
      (Peer.pictured_figured _ _ _).trans (Pass.pictured_passed _ before)⟩

/-- A packet that takes effect changes the record if it is an update that is accepted. -/
theorem applyPacket (portrays : relay.Portrays limits record) {peer : Peer} {packet : InboundPacket}
    {bytes : Nat} {now : Instant} (there : relay.directory.find? peer.id = some peer)
    (applied : relay.applyPacket peer packet bytes now = .ok after) :
    after.Portrays limits fun key =>
      (if peer.key = key then peer.acceptedPose relay.config.scaleBounds packet bytes now
        else none).or (record key) := by
  have reflects := portrays.reflects there
  have kept (quiet : peer.acceptedPose relay.config.scaleBounds packet bytes now = none)
      (same : after.Portrays limits record) : after.Portrays limits fun key =>
        (if peer.key = key then peer.acceptedPose relay.config.scaleBounds packet bytes now
          else none).or (record key) := by
    simpa only [quiet, ite_self, Option.none_or] using same
  cases packet with
  | avatarData number pose =>
    simp only [Relay.applyPacket] at applied
    cases known : peer.client? relay.config.scaleBounds with
    | none =>
      rw [known] at applied
      cases applied
    | some client =>
      rw [known] at applied
      have modified : (relay.modifyPeer peer.id
          (·.withClient (client.applyUpdate number pose bytes now).1)).Portrays limits fun key =>
            (if peer.key = key then peer.acceptedPose relay.config.scaleBounds
              (.avatarData number pose) bytes now else none).or (record key) := by
        refine portrays.modifyPeer there rfl ?_ fun other apart => ?_
        · rw [if_pos rfl]
          exact reflects.update known number pose bytes now
        · rw [if_neg (Ne.symm apart), Option.none_or]
      cases applied
      split
      · exact modified
      · exact modified.of_eq rfl rfl
  | avatarIdentity identity =>
    refine kept rfl ?_
    simp only [Relay.applyPacket] at applied
    cases known : peer.client? relay.config.scaleBounds with
    | none =>
      rw [known] at applied
      cases applied
    | some client =>
      rw [known] at applied
      cases applied
      exact portrays.modifyPeer there rfl (reflects.identity known identity now) fun _ _ => rfl
  | killAvatar =>
    cases applied
    exact kept rfl (portrays.of_eq rfl rfl)
  | nodeIgnore others enabled =>
    cases applied
    exact kept rfl (portrays.modifyPeer there (peer.kin_setIgnored others enabled).key
      (reflects.of_pictured (peer.pictured_setIgnored others enabled)) fun _ _ => rfl)
  | radiusIgnore enabled =>
    cases applied
    exact kept rfl (portrays.modifyPeer there rfl (reflects.of_pictured rfl) fun _ _ => rfl)

theorem acceptedPose_of_error {peer : Peer} {packet : InboundPacket} {bytes : Nat}
    {now : Instant} {error : ReceiveError}
    (failed : relay.applyPacket peer packet bytes now = .error error) :
    peer.acceptedPose relay.config.scaleBounds packet bytes now = none := by
  cases packet with
  | avatarData number pose =>
    cases known : peer.client? relay.config.scaleBounds with
    | none => simp only [Peer.acceptedPose, known]
    | some client =>
      simp only [Relay.applyPacket, known] at failed
      cases failed
  | _ => rfl

/-- Packets keep the record true, whether they take effect or fail. -/
theorem receive (portrays : relay.Portrays limits record) (sender : PeerId) (bytes : Bytes)
    (now : Instant) :
    (relay.receive sender bytes now).2.Portrays limits fun key =>
      (relay.acceptedBy key (.receive sender bytes now)).or (record key) := by
  have before : (relay.countPacket bytes.length).Portrays limits record := portrays.of_eq rfl rfl
  have same : (relay.countPacket bytes.length).directory = relay.directory := rfl
  simp only [Relay.receive, acceptedBy, same]
  cases there : relay.directory.find? sender with
  | none => exact before
  | some peer =>
    have own : peer.id = sender := portrays.formed.keyed there
    cases InboundPacket.format.decode bytes with
    | error cause => exact before.of_eq rfl rfl
    | ok packet =>
      cases applied : (relay.countPacket bytes.length).applyPacket peer packet bytes.length
          now with
      | error error =>
        have quiet := acceptedPose_of_error applied
        change peer.acceptedPose relay.config.scaleBounds packet bytes.length now = none at quiet
        simpa only [quiet, applied, ite_self, Option.none_or] using before
      | ok after =>
        simp only [applied]
        exact before.applyPacket (by rw [same, own, there]) applied

/-- Every operation keeps the record true, with what it has accepted. -/
theorem apply (portrays : relay.Portrays limits record) (operation : Operation) :
    (relay.apply operation).Portrays limits fun key =>
      (relay.acceptedBy key operation).or (record key) := by
  cases operation with
  | connect id role => exact portrays.connect id role
  | receive sender bytes now => exact portrays.receive sender bytes now
  | disconnect key => exact portrays.of_eq rfl rfl
  | rewire transport => exact portrays.of_eq rfl rfl
  | tick order busy began ended => exact portrays.tick order busy began ended

theorem run (portrays : relay.Portrays limits record) (operations : List Operation) :
    (relay.run operations).Portrays limits fun key =>
      (relay.lastAccepted key operations).or (record key) := by
  induction operations generalizing relay record with
  | nil => exact portrays
  | cons operation rest ih =>
    simp only [lastAccepted, Option.or_assoc]
    exact ih (portrays.apply operation)

end Portrays

end Relay

end AvatarRelay
