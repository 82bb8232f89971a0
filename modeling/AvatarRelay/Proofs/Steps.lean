/-
# Between ticks

What the operations between ticks do to what is remembered. Packets, reports and changes
of the transport leave every session in its place with all that it remembers. Only a
connection begins a session, and it begins with nothing remembered.
-/

import AvatarRelay.Proofs.Runs

namespace AvatarRelay

namespace Client

variable (client : Client)

theorem receiver_applyUpdate (number : SequenceNumber) (pose : Pose) (bytes : Nat)
    (now : Instant) : (client.applyUpdate number pose bytes now).1.receiver = client.receiver := by
  unfold applyUpdate
  dsimp only
  split
  · rfl
  · split <;> rfl

theorem receiver_applyIdentity (identity : Identity) (now : Instant) :
    (client.applyIdentity identity now).1.receiver = client.receiver := by
  unfold applyIdentity
  split <;> rfl

end Client

namespace Peer

/-- The same session with all that it remembers, whatever else about it has changed. -/
structure Kin (before after : Peer) : Prop where
  key : after.key = before.key
  role : after.role = before.role
  remembers : ∀ other, after.remembers other = before.remembers other
  lastForwarded : ∀ other, after.lastForwarded other = before.lastForwarded other
  present : before.client.isSome = true → after.client.isSome = true

namespace Kin

theorem of_client {before after : Peer} (key : after.key = before.key)
    (role : after.role = before.role) (client : after.client = before.client) :
    before.Kin after where
  key := key
  role := role
  remembers other := by rw [Peer.remembers, client, Peer.remembers]
  lastForwarded other := by rw [Peer.lastForwarded, client, Peer.lastForwarded]
  present present := by rw [client, present]

theorem refl (peer : Peer) : peer.Kin peer :=
  of_client rfl rfl rfl

theorem trans {first second third : Peer} (one : first.Kin second) (two : second.Kin third) :
    first.Kin third where
  key := two.key.trans one.key
  role := two.role.trans one.role
  remembers other := (two.remembers other).trans (one.remembers other)
  lastForwarded other := (two.lastForwarded other).trans (one.lastForwarded other)
  present := two.present ∘ one.present

end Kin

/-- The client data that a packet finds is that of the peer, or new. -/
theorem client_of_client? {peer : Peer} {bounds : ScaleBounds} {client : Client}
    (known : peer.client? bounds = some client) :
    peer.client = some client ∨ peer.client = none ∧ client = Client.new bounds := by
  unfold client? at known
  split at known
  · cases held : peer.client with
    | none =>
      rw [held] at known
      exact Or.inr ⟨rfl, (Option.some.inj known).symm⟩
    | some current =>
      rw [held] at known
      exact Or.inl known
  · cases known

variable (peer : Peer)

/-- Client data with the same receiver keeps all that is remembered; a peer without any
remembered nothing, as a new receiver does. -/
theorem kin_withClient {bounds : ScaleBounds} {current client : Client}
    (known : peer.client? bounds = some current) (same : client.receiver = current.receiver) :
    peer.Kin (peer.withClient client) := by
  rcases client_of_client? known with held | ⟨held, rfl⟩
  · refine ⟨rfl, rfl, fun other => ?_, fun other => ?_, fun _ => rfl⟩
    · simp [remembers, withClient, held, same]
    · simp [lastForwarded, withClient, held, same]
  · refine ⟨rfl, rfl, fun other => ?_, fun other => ?_, fun _ => rfl⟩
    · simp [remembers, withClient, held, same, Client.new]
    · simp [lastForwarded, withClient, held, same, Client.new, Receiver.new]

/-- Requests to ignore peers touch nothing but the set of those ignored. -/
theorem setIgnored_keeps (others : List PeerId) (enabled : Bool) :
    (peer.setIgnored others enabled).key = peer.key ∧
      (peer.setIgnored others enabled).role = peer.role ∧
      (peer.setIgnored others enabled).client = peer.client := by
  unfold setIgnored
  induction others generalizing peer with
  | nil => exact ⟨rfl, rfl, rfl⟩
  | cons other rest ih =>
    obtain ⟨key, role, client⟩ := ih (if enabled then peer.ignore other else peer.unignore other)
    rw [List.foldl_cons, key, role, client]
    cases enabled with
    | false => exact ⟨rfl, rfl, rfl⟩
    | true =>
      simp only [if_true, ignore]
      split <;> exact ⟨rfl, rfl, rfl⟩

theorem kin_setIgnored (others : List PeerId) (enabled : Bool) :
    peer.Kin (peer.setIgnored others enabled) := by
  obtain ⟨key, role, client⟩ := peer.setIgnored_keeps others enabled
  exact Kin.of_client key role client

end Peer

namespace Relay

/-- The same sessions with all that they remember, and the same purges, made or to come. -/
structure Steady (before after : Relay) : Prop where
  purges : after.purges = before.purges
  lastSession : after.directory.lastSession = before.directory.lastSession
  replaced : ∀ key, .replaced key ∈ after.events.pending ↔ .replaced key ∈ before.events.pending
  missing : ∀ id, before.directory.find? id = none → after.directory.find? id = none
  found : ∀ {id : PeerId} {peer : Peer}, before.directory.find? id = some peer →
    ∃ kin, after.directory.find? id = some kin ∧ peer.Kin kin

namespace Steady

variable {before middle after : Relay}

theorem of_eq (directory : after.directory = before.directory)
    (purges : after.purges = before.purges) (events : after.events = before.events) :
    before.Steady after where
  purges := purges
  lastSession := congrArg Directory.lastSession directory
  replaced key := by rw [events]
  missing id absent := by rw [directory, absent]
  found {id peer} connected := ⟨peer, by rw [directory, connected], Peer.Kin.refl peer⟩

theorem trans (first : before.Steady middle) (second : middle.Steady after) :
    before.Steady after where
  purges := second.purges.trans first.purges
  lastSession := second.lastSession.trans first.lastSession
  replaced key := (second.replaced key).trans (first.replaced key)
  missing id absent := second.missing id (first.missing id absent)
  found connected := by
    obtain ⟨kin, between, one⟩ := first.found connected
    obtain ⟨last, there, two⟩ := second.found between
    exact ⟨last, there, one.trans two⟩

theorem find?_before (steady : before.Steady after) {id : PeerId} {kin : Peer}
    (connected : after.directory.find? id = some kin) :
    ∃ peer, before.directory.find? id = some peer ∧ peer.Kin kin := by
  cases there : before.directory.find? id with
  | none =>
    rw [steady.missing id there] at connected
    cases connected
  | some peer =>
    obtain ⟨same, found, alike⟩ := steady.found there
    rw [connected] at found
    cases found
    exact ⟨peer, rfl, alike⟩

theorem owes_iff (steady : before.Steady after) (holder : SessionKey) (departed : PeerId) :
    after.Owes after.events.pending holder departed ↔
      before.Owes before.events.pending holder departed := by
  simp only [Owes, steady.purges, steady.replaced]

theorem wellFormed (steady : before.Steady after) (formed : before.directory.WellFormed) :
    after.directory.WellFormed :=
  formed.of_kept steady.lastSession fun connected => by
    obtain ⟨peer, there, kin⟩ := steady.find?_before connected
    exact ⟨peer, there, kin.key⟩

end Steady

variable (relay : Relay)

theorem steady_push {event : PeerEvent} {reason : KillReason}
    (ending : event.killReason? = some reason) : relay.Steady (relay.push event) := by
  have different (key : SessionKey) : .replaced key ≠ event := by
    rintro rfl
    cases ending
  have same : relay.Steady relay := Steady.of_eq rfl rfl rfl
  refine ⟨rfl, rfl, fun key => ?_, same.missing, same.found⟩
  simp [push, EventQueue.push, different key]

theorem find?_modifyPeer {peer : Peer} (change : Peer → Peer)
    (connected : relay.directory.find? peer.id = some peer) (id : PeerId) :
    (relay.modifyPeer peer.id change).directory.find? id =
      if id = peer.id then some (change peer) else relay.directory.find? id := by
  refine (Directory.find?_modify _ _ _ _).trans ?_
  by_cases here : id = peer.id
  · rw [if_pos here, if_pos here, here, connected, Option.map_some]
  · rw [if_neg here, if_neg here]

theorem steady_modifyPeer {peer : Peer} {change : Peer → Peer}
    (connected : relay.directory.find? peer.id = some peer) (kin : peer.Kin (change peer)) :
    relay.Steady (relay.modifyPeer peer.id change) := by
  refine ⟨rfl, rfl, fun _ => Iff.rfl, fun id absent => ?_, fun {id other} there => ?_⟩
  · rw [relay.find?_modifyPeer change connected, if_neg, absent]
    rintro rfl
    rw [connected] at absent
    cases absent
  · rw [relay.find?_modifyPeer change connected]
    by_cases here : id = peer.id
    · rw [here, connected] at there
      cases there
      exact ⟨change peer, if_pos here, kin⟩
    · exact ⟨other, by rw [if_neg here, there], Peer.Kin.refl other⟩

/-- What a packet that takes effect does. -/
theorem steady_applyPacket {peer : Peer} {packet : InboundPacket} {bytes : Nat} {now : Instant}
    {after : Relay} (connected : relay.directory.find? peer.id = some peer)
    (applied : relay.applyPacket peer packet bytes now = .ok after) : relay.Steady after := by
  cases packet with
  | avatarData number pose =>
    simp only [applyPacket] at applied
    cases known : peer.client? relay.config.scaleBounds with
    | none =>
      rw [known] at applied
      cases applied
    | some client =>
      rw [known] at applied
      have modified : relay.Steady (relay.modifyPeer peer.id
          (·.withClient (client.applyUpdate number pose bytes now).1)) :=
        relay.steady_modifyPeer connected
          (peer.kin_withClient known (client.receiver_applyUpdate number pose bytes now))
      cases applied
      split
      · exact modified
      · exact modified.trans (Steady.of_eq rfl rfl rfl)
  | avatarIdentity identity =>
    simp only [applyPacket] at applied
    cases known : peer.client? relay.config.scaleBounds with
    | none =>
      rw [known] at applied
      cases applied
    | some client =>
      rw [known] at applied
      cases applied
      exact relay.steady_modifyPeer connected
        (peer.kin_withClient known (client.receiver_applyIdentity identity now))
  | killAvatar =>
    cases applied
    exact relay.steady_push rfl
  | nodeIgnore others enabled =>
    cases applied
    exact relay.steady_modifyPeer connected (peer.kin_setIgnored others enabled)
  | radiusIgnore enabled =>
    cases applied
    exact relay.steady_modifyPeer connected (Peer.Kin.of_client rfl rfl rfl)

/-- Packets are steady, whether they take effect or fail. -/
theorem steady_receive (formed : relay.directory.WellFormed) (sender : PeerId) (bytes : Bytes)
    (now : Instant) : relay.Steady (relay.receive sender bytes now).2 := by
  have counted : relay.Steady (relay.countPacket bytes.length) := Steady.of_eq rfl rfl rfl
  simp only [receive]
  cases there : (relay.countPacket bytes.length).directory.find? sender with
  | none => exact counted
  | some peer =>
    have own : peer.id = sender := formed.keyed there
    cases InboundPacket.format.decode bytes with
    | error cause => exact counted.trans (Steady.of_eq rfl rfl rfl)
    | ok packet =>
      cases applied : (relay.countPacket bytes.length).applyPacket peer packet bytes.length
          now with
      | error error => simpa [applied] using counted
      | ok after =>
        simp only [applied]
        exact counted.trans (steady_applyPacket _ (by rw [own, there]) applied)

theorem directory_connect (id : PeerId) (role : Role) :
    (relay.connect id role).2.directory = (relay.directory.insert id role).2 := by
  simp only [connect]
  cases relay.directory.find? id <;> rfl

theorem find?_connect (id other : PeerId) (role : Role) :
    (relay.connect id role).2.directory.find? other =
      if other = id then some (Peer.new id role (relay.directory.lastSession + 1))
      else relay.directory.find? other := by
  rw [directory_connect, Directory.find?_insert]

theorem wellFormed_connect (formed : relay.directory.WellFormed) (id : PeerId) (role : Role) :
    (relay.connect id role).2.directory.WellFormed := by
  rw [directory_connect]
  exact formed.insert id role

theorem connect_keeps (id : PeerId) (role : Role) :
    (relay.connect id role).2.directory.lastSession = relay.directory.lastSession + 1 ∧
      (relay.connect id role).2.purges = relay.purges := by
  simp only [connect]
  cases relay.directory.find? id <;> exact ⟨rfl, rfl⟩

/-- Connecting reports that the old session was replaced, if there was one. -/
theorem replaced_connect (id : PeerId) (role : Role) (key : SessionKey) :
    .replaced key ∈ (relay.connect id role).2.events.pending ↔
      .replaced key ∈ relay.events.pending ∨
        ∃ old, relay.directory.find? id = some old ∧ key = old.key := by
  simp only [connect]
  cases relay.directory.find? id with
  | none => simp
  | some old => simp [push, EventQueue.push]

/-- A connection owes nothing anew but what the session that it replaced has left. -/
theorem owes_connect (formed : relay.directory.WellFormed) (id : PeerId) (role : Role)
    (holder : SessionKey) (departed : PeerId) :
    (relay.connect id role).2.Owes (relay.connect id role).2.events.pending holder departed ↔
      relay.Owes relay.events.pending holder departed ∨
        departed = id ∧ relay.directory.find? id ≠ none := by
  simp only [Owes, (relay.connect_keeps id role).2, replaced_connect, or_assoc]
  apply or_congr_right
  constructor
  · rintro ⟨key, before | ⟨old, there, rfl⟩, rfl⟩
    · exact Or.inl ⟨key, before, rfl⟩
    · exact Or.inr ⟨formed.keyed there, by simp [there]⟩
  · rintro (⟨key, before, rfl⟩ | ⟨rfl, there⟩)
    · exact ⟨key, Or.inl before, rfl⟩
    · obtain ⟨old, there⟩ := Option.ne_none_iff_exists'.mp there
      exact ⟨old.key, Or.inr ⟨old, there, rfl⟩, formed.keyed there⟩

end Relay

end AvatarRelay
