/-
# What an operation makes of a peer

Whoever is connected after an operation has just begun its session, or was connected
before as the same session. In the second case the operation has made of the peer what
depends on the peer alone: a packet has been taken in by its sender, and a tick has purged
the peer, served it and taken its snapshot. What is preserved by a whole run is proved
from these two cases.
-/

import AvatarRelay.Proofs.Poses

namespace AvatarRelay

theorem Client.sender_forgetAll (departed : List PeerId) (client : Client) :
    (client.forgetAll departed).sender = client.sender := by
  induction departed generalizing client with
  | nil => rfl
  | cons first rest ih => exact ih _

namespace Peer

def sending (bounds : ScaleBounds) (packet : InboundPacket) (bytes : Nat) (now : Instant)
    (peer : Peer) : Peer :=
  match packet with
  | .avatarData number pose =>
    (peer.client? bounds).elim peer fun client =>
      peer.withClient (client.applyUpdate number pose bytes now).1
  | .avatarIdentity identity =>
    (peer.client? bounds).elim peer fun client =>
      peer.withClient (client.applyIdentity identity now).1
  | .killAvatar => peer
  | .nodeIgnore others enabled => peer.setIgnored others enabled
  | .radiusIgnore enabled => peer.setBubble enabled

/-- What a peer is as a sender; one that nothing came from yet without client data. -/
def sender (peer : Peer) : Sender :=
  (peer.client.map Client.sender).getD Sender.new

def avatar? (peer : Peer) : Option Avatar :=
  peer.client.map Client.avatar

theorem sender_of_client {peer : Peer} {client : Client} (given : peer.client = some client) :
    peer.sender = client.sender := by
  rw [sender, given, Option.map_some, Option.getD_some]

theorem sender_purgedOfAll (busy : Bool) (departed : List PeerId) (peer : Peer) :
    (peer.purgedOfAll busy departed).sender = peer.sender := by
  have forgets : Client.sender ∘ Client.forgetAll departed = Client.sender :=
    funext fun client => client.sender_forgetAll departed
  rw [sender, client_purgedOfAll]
  split
  · rfl
  · rw [Option.map_map, forgets, sender]

theorem avatar?_purgedOfAll (busy : Bool) (departed : List PeerId) (peer : Peer) :
    (peer.purgedOfAll busy departed).avatar? = peer.avatar? := by
  have forgets : Client.avatar ∘ Client.forgetAll departed = Client.avatar :=
    funext fun client => client.avatar_forgetAll departed
  rw [avatar?, client_purgedOfAll]
  split
  · rfl
  · rw [Option.map_map, forgets, avatar?]

theorem key_sending (bounds : ScaleBounds) (packet : InboundPacket) (bytes : Nat) (now : Instant)
    (peer : Peer) : (peer.sending bounds packet bytes now).key = peer.key := by
  cases packet with
  | avatarData number pose =>
    rw [sending]
    cases peer.client? bounds <;> rfl
  | avatarIdentity identity =>
    rw [sending]
    cases peer.client? bounds <;> rfl
  | killAvatar => rfl
  | nodeIgnore others enabled => exact (peer.setIgnored_keeps others enabled).1
  | radiusIgnore enabled => rfl

theorem role_sending (bounds : ScaleBounds) (packet : InboundPacket) (bytes : Nat) (now : Instant)
    (peer : Peer) : (peer.sending bounds packet bytes now).role = peer.role := by
  cases packet with
  | avatarData number pose =>
    rw [sending]
    cases peer.client? bounds <;> rfl
  | avatarIdentity identity =>
    rw [sending]
    cases peer.client? bounds <;> rfl
  | killAvatar => rfl
  | nodeIgnore others enabled => exact (peer.setIgnored_keeps others enabled).2.1
  | radiusIgnore enabled => rfl

/-- What a packet makes of client data: an update was applied to it, or an identity, or it is
as it was. -/
theorem client_sending (bounds : ScaleBounds) (packet : InboundPacket) (bytes : Nat)
    (now : Instant) (peer : Peer) :
    let after := peer.sending bounds packet bytes now
    (∃ number pose client, packet = .avatarData number pose ∧
      peer.client? bounds = some client ∧
      after.client = some (client.applyUpdate number pose bytes now).1) ∨
    (∃ identity client, packet = .avatarIdentity identity ∧
      peer.client? bounds = some client ∧
      after.client = some (client.applyIdentity identity now).1) ∨
    (peer.acceptedPose bounds packet bytes now = none ∧ after.client = peer.client) := by
  cases packet with
  | avatarData number pose =>
    simp only [sending, acceptedPose]
    cases known : peer.client? bounds with
    | none => exact Or.inr (Or.inr ⟨rfl, rfl⟩)
    | some client => exact Or.inl ⟨number, pose, client, rfl, rfl, rfl⟩
  | avatarIdentity identity =>
    simp only [sending]
    cases known : peer.client? bounds with
    | none => exact Or.inr (Or.inr ⟨rfl, rfl⟩)
    | some client => exact Or.inr (Or.inl ⟨identity, client, rfl, rfl, rfl⟩)
  | killAvatar => exact Or.inr (Or.inr ⟨rfl, rfl⟩)
  | nodeIgnore others enabled =>
    exact Or.inr (Or.inr ⟨rfl, (peer.setIgnored_keeps others enabled).2.2⟩)
  | radiusIgnore enabled => exact Or.inr (Or.inr ⟨rfl, rfl⟩)

end Peer

theorem Pass.sender_passed (pass : Pass) (peer : Peer) :
    (pass.passed peer).sender = peer.sender := by
  obtain ⟨change, passed, changes⟩ := pass.passed_spec peer
  have same : Client.sender ∘ change = Client.sender := funext fun client => (changes client).1
  rw [passed, Peer.sender, Peer.client_mapClient, Option.map_map, same, Peer.sender]

namespace Relay

variable (relay : Relay)

/-- What a packet makes of a connected peer: its sender has taken it in. -/
def heard (sender : PeerId) (bytes : Bytes) (now : Instant) (peer : Peer) : Peer :=
  match InboundPacket.format.decode bytes with
  | .ok packet =>
    if peer.id = sender then peer.sending relay.config.scaleBounds packet bytes.length now
    else peer
  | .error _ => peer

/-- What a tick makes of a peer that stays, with its figures read or not. -/
def ticked (order : VisitOrder) (busy : SessionKey → Bool) (began ended : Instant)
    (reported : Bool) (peer : Peer) : Peer :=
  let purged := peer.purgedOfAll (busy peer.key)
    (dues ((relay.timed began).processEvents order).purges peer.key)
  let passed := (relay.nextPass order busy began).passed purged
  if reported then passed.figured busy ended else passed

/-- What an operation makes of a peer that stays. -/
def Changes (before after : Peer) : Operation → Prop
  | .receive sender bytes now => after = relay.heard sender bytes now before
  | .tick order busy began ended =>
    ((relay.timed began).processEvents order).directory.find? before.id = some before ∧
      ∃ reported, after = relay.ticked order busy began ended reported before
  | .connect _ _ | .disconnect _ | .rewire _ => after = before

variable {relay}

theorem find?_applyPacket {peer : Peer} {packet : InboundPacket} {bytes : Nat} {now : Instant}
    (connected : relay.directory.find? peer.id = some peer) {after : Relay}
    (applied : relay.applyPacket peer packet bytes now = .ok after) (id : PeerId) :
    after.directory.find? id =
      if id = peer.id then some (peer.sending relay.config.scaleBounds packet bytes now)
      else relay.directory.find? id := by
  cases packet with
  | avatarData number pose =>
    simp only [applyPacket] at applied
    cases known : peer.client? relay.config.scaleBounds with
    | none =>
      rw [known] at applied
      cases applied
    | some client =>
      rw [known] at applied
      cases applied
      simp only [Peer.sending, known, Option.elim_some]
      split <;> exact relay.find?_modifyPeer _ connected id
  | avatarIdentity identity =>
    simp only [applyPacket] at applied
    cases known : peer.client? relay.config.scaleBounds with
    | none =>
      rw [known] at applied
      cases applied
    | some client =>
      rw [known] at applied
      cases applied
      simp only [Peer.sending, known, Option.elim_some]
      exact relay.find?_modifyPeer _ connected id
  | killAvatar =>
    cases applied
    split
    · next here =>
      rw [here]
      exact connected
    · rfl
  | nodeIgnore others enabled =>
    cases applied
    exact relay.find?_modifyPeer _ connected id
  | radiusIgnore enabled =>
    cases applied
    exact relay.find?_modifyPeer _ connected id

/-- A packet that has no effect would make nothing else of its sender. -/
theorem sending_of_error {peer : Peer} {packet : InboundPacket} {bytes : Nat} {now : Instant}
    {error : ReceiveError} (failed : relay.applyPacket peer packet bytes now = .error error) :
    peer.sending relay.config.scaleBounds packet bytes now = peer := by
  cases packet with
  | avatarData number pose =>
    cases known : peer.client? relay.config.scaleBounds with
    | none => simp only [Peer.sending, known, Option.elim_none]
    | some client =>
      simp only [applyPacket, known] at failed
      cases failed
  | avatarIdentity identity =>
    cases known : peer.client? relay.config.scaleBounds with
    | none => simp only [Peer.sending, known, Option.elim_none]
    | some client =>
      simp only [applyPacket, known] at failed
      cases failed
  | _ => cases failed

/-- A packet makes nothing else of anyone but its sender. -/
theorem heard_of_ne {sender : PeerId} (bytes : Bytes) (now : Instant) {peer : Peer}
    (other : peer.id ≠ sender) : relay.heard sender bytes now peer = peer := by
  unfold heard
  split
  · exact if_neg other
  · rfl

/-- What a packet does to the directory, whether it takes effect or fails. -/
theorem find?_receive (formed : relay.directory.WellFormed) (sender : PeerId) (bytes : Bytes)
    (now : Instant) (id : PeerId) :
    (relay.receive sender bytes now).2.directory.find? id =
      (relay.directory.find? id).map (relay.heard sender bytes now) := by
  have counted : (relay.countPacket bytes.length).directory = relay.directory := rfl
  -- A packet without effect would make nothing of its sender either.
  have unchanged (still : ∀ peer, relay.directory.find? sender = some peer →
      relay.heard sender bytes now peer = peer) :
      relay.directory.find? id = (relay.directory.find? id).map (relay.heard sender bytes now) := by
    cases found : relay.directory.find? id with
    | none => rfl
    | some peer =>
      rw [Option.map_some]
      by_cases own : id = sender
      · rw [still peer (by rw [← own, found])]
      · rw [heard_of_ne bytes now (by rwa [formed.keyed found])]
  simp only [receive, counted]
  cases there : relay.directory.find? sender with
  | none => exact unchanged fun peer found => by simp [there] at found
  | some peer =>
    have own : peer.id = sender := formed.keyed there
    have only (other : Peer) (found : relay.directory.find? sender = some other) :
        other = peer := Option.some.inj (found.symm.trans there)
    cases decoded : InboundPacket.format.decode bytes with
    | error cause =>
      refine unchanged fun other found => ?_
      rw [heard, decoded]
    | ok packet =>
      cases applied : (relay.countPacket bytes.length).applyPacket peer packet bytes.length
          now with
      | error error =>
        have still := sending_of_error applied
        change peer.sending relay.config.scaleBounds packet bytes.length now = peer at still
        simp only [applied]
        refine unchanged fun other found => ?_
        simp only [heard, decoded, only other found, still, ite_self]
      | ok after =>
        simp only [applied]
        refine (find?_applyPacket (by rw [counted, own, there]) applied id).trans ?_
        rw [own]
        by_cases here : id = sender
        · rw [if_pos here, here, there, Option.map_some, heard, decoded]
          simp only [own, if_true]
          rfl
        · rw [if_neg here, counted]
          cases found : relay.directory.find? id with
          | none => rfl
          | some other =>
            rw [Option.map_some, heard_of_ne bytes now (by rwa [formed.keyed found])]

/-- A packet leaves everyone but its sender as they are. -/
theorem find?_receive_of_ne (formed : relay.directory.WellFormed) {sender id : PeerId}
    (other : id ≠ sender) (bytes : Bytes) (now : Instant) :
    (relay.receive sender bytes now).2.directory.find? id = relay.directory.find? id := by
  rw [find?_receive formed]
  cases found : relay.directory.find? id with
  | none => rfl
  | some peer =>
    rw [Option.map_some, heard_of_ne bytes now (by rwa [formed.keyed found])]

theorem key_heard (sender : PeerId) (bytes : Bytes) (now : Instant) (peer : Peer) :
    (relay.heard sender bytes now peer).key = peer.key := by
  unfold heard
  split
  · split
    · exact Peer.key_sending _ _ _ _ _
    · rfl
  · rfl

/-- A packet either comes from a connected session and can be read, and is taken in, or leaves
the session as it is. -/
theorem heard_cases (formed : relay.directory.WellFormed) {key : SessionKey} {peer : Peer}
    (there : relay.directory.findSession? key = some peer) (sender : PeerId) (bytes : Bytes)
    (now : Instant) :
    (∃ packet, relay.directory.find? sender = some peer ∧ peer.key = key ∧
      InboundPacket.format.decode bytes = .ok packet ∧
      relay.heard sender bytes now peer =
        peer.sending relay.config.scaleBounds packet bytes.length now) ∨
    (relay.heard sender bytes now peer = peer ∧ ∀ other packet,
      relay.directory.find? sender = some other →
      InboundPacket.format.decode bytes = .ok packet → other.key ≠ key) := by
  have own : peer.key = key := formed.keyed.key_of_findSession? there
  obtain ⟨found, -⟩ := (Directory.findSession?_eq_some_iff _).mp there
  cases decoded : InboundPacket.format.decode bytes with
  | error cause =>
    refine Or.inr ⟨?_, fun _ _ _ clash => by cases clash⟩
    simp only [heard, decoded]
  | ok packet =>
    by_cases here : peer.id = sender
    · rw [← own, show peer.key.id = sender from here] at found
      refine Or.inl ⟨packet, found, own, rfl, ?_⟩
      simp only [heard, decoded, here, if_true]
    · refine Or.inr ⟨heard_of_ne bytes now here, fun other _ connected _ same => ?_⟩
      exact here ((Peer.id_eq_of_key (own.trans same.symm)).trans (formed.keyed connected))

section Tick

variable (relay) (order : VisitOrder) (busy : SessionKey → Bool) (began ended : Instant)

/-- Who is connected when the pass of a tick begins was connected before the tick, and was
purged since and nothing else. -/
theorem purged_beforePass (formed : relay.directory.WellFormed) {id : PeerId} {peer : Peer}
    (found : (relay.beforePass order busy began).directory.find? id = some peer) :
    ∃ before, relay.directory.find? id = some before ∧
      ((relay.timed began).processEvents order).directory.find? id = some before ∧
      peer = before.purgedOfAll (busy before.key)
        (dues ((relay.timed began).processEvents order).purges before.key) := by
  rw [relay.find?_beforePass order busy began formed, Option.map_eq_some_iff] at found
  obtain ⟨before, stays, rfl⟩ := found
  exact ⟨before, (relay.settles_timed order began formed).find?_before stays, stays, rfl⟩

/-- What a tick does to the directory, once the events were taken up. -/
theorem find?_ticked (formed : relay.directory.WellFormed) :
    ∃ reported, ∀ id, (relay.tick order busy began ended).2.directory.find? id =
      (((relay.timed began).processEvents order).directory.find? id).map
        (relay.ticked order busy began ended reported) := by
  obtain ⟨reported, left⟩ := relay.find?_tick_passed order busy began ended formed
  refine ⟨reported, fun id => ?_⟩
  rw [left, relay.find?_beforePass order busy began formed, Option.map_map]
  rfl

/-- After a tick a peer is as its pass has left it, in every view that rolling the meters keeps. -/
theorem ticked_keeps {α : Type} (view : Peer → α)
    (rolled : ∀ peer : Peer, view (peer.mapClient (·.rollMeters ended)) = view peer)
    (reported : Bool) (peer : Peer) :
    view (relay.ticked order busy began ended reported peer) =
      view ((relay.nextPass order busy began).passed (peer.purgedOfAll (busy peer.key)
        (dues ((relay.timed began).processEvents order).purges peer.key))) := by
  unfold ticked
  dsimp only
  split
  · exact Peer.figured_keeps view rolled busy _
  · rfl

theorem key_ticked (reported : Bool) (peer : Peer) :
    (relay.ticked order busy began ended reported peer).key = peer.key := by
  rw [relay.ticked_keeps order busy began ended Peer.key fun _ => rfl, Pass.key_passed,
    Peer.key_purgedOfAll]

/-- A tick ends a peer's ignoring of those that it purges the peer of, and of nobody else. -/
theorem isIgnoring_ticked (reported : Bool) (peer : Peer) (other : PeerId) :
    (relay.ticked order busy began ended reported peer).isIgnoring other = true ↔
      other ∉ dues ((relay.timed began).processEvents order).purges peer.key ∧
        peer.isIgnoring other = true := by
  rw [relay.ticked_keeps order busy began ended (·.isIgnoring other) fun _ => rfl,
    Pass.isIgnoring_passed, Peer.isIgnoring_purgedOfAll]

/-- A tick leaves a sender as it is, up to its meter. -/
theorem sender_ticked {α : Type} (view : Sender → α)
    (metered : ∀ (sender : Sender) (meter : RateMeter),
      view { sender with meter := meter } = view sender)
    (reported : Bool) (peer : Peer) :
    view (relay.ticked order busy began ended reported peer).sender = view peer.sender := by
  have rolled (peer : Peer) :
      view (peer.mapClient (·.rollMeters ended)).sender = view peer.sender := by
    rw [Peer.sender, Peer.client_mapClient, Peer.sender]
    cases peer.client with
    | none => rfl
    | some client => exact metered _ _
  rw [relay.ticked_keeps order busy began ended (view ·.sender) rolled, Pass.sender_passed,
    Peer.sender_purgedOfAll]

/-- A tick changes an avatar only by taking its snapshot, unless its data is in use. -/
theorem avatar?_ticked (reported : Bool) (peer : Peer) :
    (relay.ticked order busy began ended reported peer).avatar? = peer.avatar?.map fun avatar =>
      if (relay.nextPass order busy began).order.contains peer.id &&
          !(relay.nextPass order busy began).busy peer.id then avatar.snapshotJoints
      else avatar := by
  have rolled (peer : Peer) : (peer.mapClient (·.rollMeters ended)).avatar? = peer.avatar? := by
    rw [Peer.avatar?, Peer.client_mapClient, Option.map_map]
    rfl
  have same : (peer.purgedOfAll (busy peer.key)
      (dues ((relay.timed began).processEvents order).purges peer.key)).id = peer.id :=
    Peer.id_eq_of_key (Peer.key_purgedOfAll _ _)
  have passed := (relay.nextPass order busy began).avatar_passed (peer.purgedOfAll (busy peer.key)
    (dues ((relay.timed began).processEvents order).purges peer.key))
  rw [same, ← Peer.avatar?, ← Peer.avatar?, Peer.avatar?_purgedOfAll] at passed
  rw [relay.ticked_keeps order busy began ended Peer.avatar? rolled, passed]

end Tick

theorem Changes.key {before after : Peer} {operation : Operation}
    (changes : relay.Changes before after operation) : after.key = before.key := by
  cases operation with
  | receive sender bytes now =>
    rw [show after = _ from changes]
    exact relay.key_heard sender bytes now before
  | tick order busy began ended =>
    obtain ⟨-, reported, rfl⟩ := changes
    exact relay.key_ticked order busy began ended reported before
  | connect _ _ | disconnect _ | rewire _ => exact congrArg Peer.key changes

/-- Who is connected after an operation has begun its session with it, or was connected
before. -/
theorem find?_apply (formed : relay.directory.WellFormed) {operation : Operation} {id : PeerId}
    {after : Peer} (found : (relay.apply operation).directory.find? id = some after) :
    (∃ role, operation = .connect id role ∧
      after = Peer.new id role (relay.directory.lastSession + 1)) ∨
    ∃ before, relay.directory.find? id = some before ∧ relay.Changes before after operation := by
  cases operation with
  | connect other role =>
    rw [apply, find?_connect] at found
    split at found
    · next own =>
      cases found
      exact Or.inl ⟨role, by rw [own], by rw [own]⟩
    · exact Or.inr ⟨after, found, rfl⟩
  | receive sender bytes now =>
    rw [apply, find?_receive formed, Option.map_eq_some_iff] at found
    obtain ⟨before, there, rfl⟩ := found
    exact Or.inr ⟨before, there, rfl⟩
  | disconnect key => exact Or.inr ⟨after, found, rfl⟩
  | rewire transport => exact Or.inr ⟨after, found, rfl⟩
  | tick order busy began ended =>
    obtain ⟨reported, maps⟩ := relay.find?_ticked order busy began ended formed
    rw [apply, maps, Option.map_eq_some_iff] at found
    obtain ⟨before, stays, rfl⟩ := found
    have there := (relay.settles_timed order began formed).find?_before stays
    have own : before.id = id := formed.keyed there
    exact Or.inr ⟨before, there, by rw [own, stays], reported, rfl⟩

theorem wellFormed_apply (formed : relay.directory.WellFormed) (operation : Operation) :
    (relay.apply operation).directory.WellFormed := by
  cases operation with
  | connect id role => exact relay.wellFormed_connect formed id role
  | receive sender bytes now =>
    exact (relay.steady_receive formed sender bytes now).wellFormed formed
  | disconnect key => exact formed
  | rewire transport => exact formed
  | tick order busy began ended => exact relay.wellFormed_tick order busy began ended formed

theorem wellFormed_run (formed : relay.directory.WellFormed) (operations : List Operation) :
    (relay.run operations).directory.WellFormed := by
  induction operations generalizing relay with
  | nil => exact formed
  | cons operation rest ih => exact ih (wellFormed_apply formed operation)

theorem lastSession_apply (formed : relay.directory.WellFormed) (operation : Operation) :
    relay.directory.lastSession ≤ (relay.apply operation).directory.lastSession := by
  cases operation with
  | connect id role =>
    rw [apply, (relay.connect_keeps id role).1]
    exact Nat.le_succ _
  | receive sender bytes now =>
    exact Nat.le_of_eq (relay.steady_receive formed sender bytes now).lastSession.symm
  | disconnect key => exact Nat.le_refl _
  | rewire transport => exact Nat.le_refl _
  | tick order busy began ended =>
    exact Nat.le_of_eq (relay.tick_keeps order busy began ended formed).2.2.2.symm

/-- A session that is connected after an operation, and had not begun before it, is new. -/
theorem eq_new_of_late (formed : relay.directory.WellFormed) {operation : Operation}
    {key : SessionKey} (late : relay.directory.lastSession < key.session) {after : Peer}
    (found : (relay.apply operation).directory.findSession? key = some after) :
    ∃ role, after = Peer.new key.id role (relay.directory.lastSession + 1) := by
  obtain ⟨there, session⟩ := (Directory.findSession?_eq_some_iff _).mp found
  rcases find?_apply formed there with ⟨role, -, same⟩ | ⟨before, here, changes⟩
  · exact ⟨role, same⟩
  · have bound := formed.numbered here
    have same : after.session = before.session := congrArg SessionKey.session changes.key
    omega

/-- A session that has begun and is connected after an operation was connected before it. -/
theorem findSession?_apply (formed : relay.directory.WellFormed) {operation : Operation}
    {key : SessionKey} (begun : key.session ≤ relay.directory.lastSession) {after : Peer}
    (found : (relay.apply operation).directory.findSession? key = some after) :
    ∃ before, relay.directory.findSession? key = some before ∧
      relay.Changes before after operation := by
  obtain ⟨there, session⟩ := (Directory.findSession?_eq_some_iff _).mp found
  rcases find?_apply formed there with ⟨role, -, rfl⟩ | ⟨before, here, changes⟩
  · have late : relay.directory.lastSession + 1 = key.session := session
    omega
  · refine ⟨before, (Directory.findSession?_eq_some_iff _).mpr ⟨here, ?_⟩, changes⟩
    rw [← session]
    exact congrArg SessionKey.session changes.key.symm

end Relay

end AvatarRelay
