/-
# Wanderers and their sessions

What a wanderer does to a relay concerns its own session alone. It joins under a fresh
identifier and is served from then on; each update that it reports follows the one that the
relay holds, so it is taken in; and when it leaves, the end of its session is reported and the
session stays until the next tick. Everyone moves before anyone's report matters, since no move
depends on the relay.
-/

import Mathlib.Data.List.Perm.Basic
import AvatarRelay.Crowd
import AvatarRelay.Proofs.Draws
import AvatarRelay.Proofs.Histories
import AvatarRelay.Proofs.Staleness
import AvatarRelay.Proofs.Updates

namespace AvatarRelay

def Wanderer.id (wanderer : Wanderer) : PeerId := wanderer.key.id

namespace Peer

/-- An agent holds the update of a number, and has sent no stale one. -/
structure UpTo (peer : Peer) (number : SequenceNumber) : Prop where
  agent : peer.role.carriesAvatar = true
  latest : peer.sender.latest = number
  timely : peer.staleUpdates = 0

namespace UpTo

variable {peer : Peer} {number : SequenceNumber}

theorem new (id : PeerId) (session : Nat) : (Peer.new id .agent session).UpTo 0 :=
  ⟨rfl, rfl, rfl⟩

theorem setBubble (upTo : peer.UpTo number) (enabled : Bool) :
    (peer.setBubble enabled).UpTo number :=
  ⟨upTo.agent, upTo.latest, upTo.timely⟩

variable (upTo : peer.UpTo number) (bounds : ScaleBounds) (bytes : Nat) (now : Instant)

include upTo

theorem exists_client : ∃ client, peer.client? bounds = some client := by
  rw [← Option.isSome_iff_exists, isSome_client?, upTo.agent]

theorem identity (identity : Identity) :
    (peer.sending bounds (.avatarIdentity identity) bytes now).UpTo number ∧
      peer.receipt bounds (.avatarIdentity identity) bytes now = .taken := by
  obtain ⟨client, given⟩ := upTo.exists_client bounds
  have taken : peer.receipt bounds (.avatarIdentity identity) bytes now = .taken := by
    simp only [receipt, given]
  refine ⟨⟨?_, ?_, ?_⟩, taken⟩
  · rw [role_sending, upTo.agent]
  · rcases peer.sender_sending bounds (.avatarIdentity identity) bytes now with
      ⟨number, accepted, -⟩ | ⟨-, -, same⟩
    · cases accepted
    · rw [same, upTo.latest]
  · have counted := peer.staleUpdates_sending bounds bytes now (.avatarIdentity identity)
    rw [taken, upTo.timely] at counted
    exact (UInt64.add_left_inj _).mp counted

/-- The update that follows the one held is never stale, and it becomes the one held unless its
pose has to be refused. -/
theorem update {pose : Pose} (sound : Avatar.refuses pose = false) :
    (peer.sending bounds (.avatarData (number + 1) pose) bytes now).UpTo (number + 1) ∧
      peer.receipt bounds (.avatarData (number + 1) pose) bytes now = .taken := by
  obtain ⟨client, given⟩ := upTo.exists_client bounds
  have fresh : peer.sender.isStale (number + 1) = false := by
    rw [Sender.isStale, upTo.latest, Sequence.newer_next, Bool.not_true, Bool.and_false]
  have current : client.sender.isStale (number + 1) = false := by
    rw [sender_of_client? given, fresh]
  refine ⟨⟨?_, ?_, ?_⟩, ?_⟩
  · rw [role_sending, upTo.agent]
  · simp only [sending, given, Option.elim_some]
    rw [sender_of_client rfl, Client.applyUpdate_eq, current, sound]
    rfl
  · rw [staleUpdates_sending_update, fresh, upTo.timely, Bool.and_false]
    rfl
  · simp only [receipt, given]
    rw [Client.applyUpdate_eq, current, sound]
    rfl

theorem ticked (relay : Relay) (order : VisitOrder) (busy : SessionKey → Bool)
    (began ended : Instant) (reported : Bool) :
    (relay.ticked order busy began ended reported peer).UpTo number := by
  constructor
  · rw [relay.ticked_keeps order busy began ended Peer.role fun _ => rfl, Pass.role_passed,
      role_purgedOfAll, upTo.agent]
  · rw [relay.sender_ticked order busy began ended Sender.latest fun _ _ => rfl, upTo.latest]
  · rw [staleUpdates, relay.sender_ticked order busy began ended Sender.staleUpdates fun _ _ => rfl]
    exact upTo.timely

end UpTo

end Peer

namespace Relay

variable {relay : Relay}

/-- What concerns some peers alone: everyone else is left as they were, nothing is reported, and
no update is dropped. -/
structure Concerns (ids : List PeerId) (before after : Relay) : Prop where
  formed : after.directory.WellFormed
  others : ∀ id, id ∉ ids → after.directory.find? id = before.directory.find? id
  addresses : ∀ id, id ∉ ids →
    after.transport.hasActiveAddress id = before.transport.hasActiveAddress id
  events : after.events = before.events
  dropped : after.metrics.staleUpdates = before.metrics.staleUpdates

namespace Concerns

variable {ids more : List PeerId} {before middle after : Relay}

theorem refl (formed : relay.directory.WellFormed) : Concerns ids relay relay :=
  ⟨formed, fun _ _ => rfl, fun _ _ => rfl, rfl, rfl⟩

theorem trans (one : Concerns ids before middle) (two : Concerns ids middle after) :
    Concerns ids before after where
  formed := two.formed
  others id absent := (two.others id absent).trans (one.others id absent)
  addresses id absent := (two.addresses id absent).trans (one.addresses id absent)
  events := two.events.trans one.events
  dropped := two.dropped.trans one.dropped

theorem mono (concerns : Concerns ids before after) (within : ids ⊆ more) :
    Concerns more before after where
  formed := concerns.formed
  others id absent := concerns.others id fun listed => absent (within listed)
  addresses id absent := concerns.addresses id fun listed => absent (within listed)
  events := concerns.events
  dropped := concerns.dropped

end Concerns

theorem concerns_connect (formed : relay.directory.WellFormed) {id : PeerId}
    (absent : relay.directory.find? id = none) (role : Role) :
    Concerns [id] relay (relay.connect id role).2 where
  formed := relay.wellFormed_connect formed id role
  others other apart := by rw [find?_connect, if_neg (List.ne_of_not_mem_cons apart)]
  addresses other apart := by rw [connect, absent]
  events := by rw [connect, absent]
  dropped := by rw [connect, absent]

theorem concerns_setAddress (formed : relay.directory.WellFormed) (id : PeerId)
    (hasAddress : Bool) :
    Concerns [id] relay (relay.withTransport (relay.transport.setAddress id hasAddress)) where
  formed := formed
  others _ _ := rfl
  addresses other apart := by
    rw [withTransport, Loopback.hasActiveAddress_setAddress,
      if_neg (List.ne_of_not_mem_cons apart)]
  events := rfl
  dropped := rfl

theorem concerns_modifyPeer (formed : relay.directory.WellFormed) (id : PeerId)
    {change : Peer → Peer} (kept : ∀ peer, (change peer).key = peer.key) :
    Concerns [id] relay (relay.modifyPeer id change) where
  formed := by
    refine formed.of_kept rfl fun {other peer} found => ?_
    rw [modifyPeer, Directory.find?_modify] at found
    split at found
    · obtain ⟨before, there, rfl⟩ := Option.map_eq_some_iff.mp found
      exact ⟨before, there, kept before⟩
    · exact ⟨peer, found, rfl⟩
  others other apart := by
    rw [modifyPeer, Directory.find?_modify, if_neg (List.ne_of_not_mem_cons apart)]
  addresses _ _ := rfl
  events := rfl
  dropped := rfl

/-- A packet that is taken in and reports nothing is counted, and changes its sender. -/
theorem receive_of_taken {sender : PeerId} {bytes : Bytes} {now : Instant}
    (taken : relay.receipt sender bytes now = .taken) :
    (relay.receive sender bytes now).2 =
      { relay.countPacket bytes.length with
        directory := (relay.receive sender bytes now).2.directory } := by
  refine (relay.receive_spec sender bytes now).2.trans ?_
  rw [taken, relay.noting_plain bytes.length rfl rfl rfl]

theorem concerns_receive (formed : relay.directory.WellFormed) {sender : PeerId} {bytes : Bytes}
    {now : Instant} (taken : relay.receipt sender bytes now = .taken) :
    Concerns [sender] relay (relay.receive sender bytes now).2 where
  formed := (relay.steady_receive formed sender bytes now).wellFormed formed
  others other apart := find?_receive_of_ne formed (List.ne_of_not_mem_cons apart) bytes now
  addresses other apart := by rw [receive_of_taken taken]; rfl
  events := by rw [receive_of_taken taken]; rfl
  dropped := by rw [receive_of_taken taken]; rfl

/-- The session of a wanderer is connected, can be reached, and holds its latest update. -/
structure Serves (relay : Relay) (wanderer : Wanderer) : Prop where
  connected : ∃ peer, relay.directory.find? wanderer.id = some peer ∧
    peer.key = wanderer.key ∧ peer.UpTo wanderer.number
  reachable : relay.transport.hasActiveAddress wanderer.id = true

namespace Serves

variable {wanderer : Wanderer} {after : Relay}

theorem of_eq (serves : relay.Serves wanderer)
    (found : after.directory.find? wanderer.id = relay.directory.find? wanderer.id)
    (address : after.transport.hasActiveAddress wanderer.id =
      relay.transport.hasActiveAddress wanderer.id) :
    after.Serves wanderer where
  connected := by
    rw [found]
    exact serves.connected
  reachable := by rw [address, serves.reachable]

theorem of_concerns {ids : List PeerId} (serves : relay.Serves wanderer)
    (concerns : Concerns ids relay after) (other : wanderer.id ∉ ids) : after.Serves wanderer :=
  serves.of_eq (concerns.others _ other) (concerns.addresses _ other)

end Serves

end Relay

namespace Crowd

variable {relay : Relay}

theorem send_spec (formed : relay.directory.WellFormed) {peer : Peer}
    (there : relay.directory.find? peer.id = some peer) {packet : InboundPacket}
    (fits : packet.Fits) (now : Instant)
    (taken : peer.receipt relay.config.scaleBounds packet (InboundPacket.format.write packet).length
      now = .taken) :
    (send relay peer.id packet now).directory.find? peer.id =
        some (peer.sending relay.config.scaleBounds packet
          (InboundPacket.format.write packet).length now) ∧
      (send relay peer.id packet now).transport = relay.transport ∧
      Relay.Concerns [peer.id] relay (send relay peer.id packet now) := by
  have decoded : InboundPacket.format.decode (InboundPacket.format.write packet) = .ok packet := by
    have read := decode_written .inboundPacket fits []
    rwa [List.append_nil] at read
  have received : relay.receipt peer.id (InboundPacket.format.write packet) now = .taken := by
    simp only [Relay.receipt, there, decoded]
    exact taken
  refine ⟨?_, ?_, Relay.concerns_receive formed received⟩
  · refine (Relay.find?_receive formed peer.id _ now peer.id).trans ?_
    rw [there, Option.map_some, Relay.heard, decoded]
    simp only [if_true]
  · rw [send, Relay.receive_of_taken received]
    rfl

end Crowd

/-! ## Joining -/

theorem utf8ByteSize_ofList_le (characters : List Char) :
    (String.ofList characters).utf8ByteSize ≤ 4 * characters.length := by
  induction characters with
  | nil => exact Nat.le_refl 0
  | cons first rest ih =>
    rw [String.ofList_cons, String.utf8ByteSize_append, String.utf8ByteSize_singleton,
      List.length_cons]
    have := first.utf8Size_le_four
    omega

theorem Identity.fits_name {number : Nat} (small : number < 10000) :
    (Identity.named ("Wanderer" ++ toString number)).Fits := by
  have digits : (Nat.toDigits 10 number).length ≤ 4 :=
    (Nat.length_toDigits_le_iff (by decide) (by decide)).mpr small
  have size := utf8ByteSize_ofList_le (Nat.toDigits 10 number)
  have limit : 24 < lengthLimit := by decide
  refine ⟨?_, Nat.zero_lt_of_lt limit, Nat.zero_lt_of_lt limit, fun _ listed => ?_⟩
  · rw [Identity.named, String.utf8ByteSize_append, Nat.toString_eq_ofList_toDigits]
    have front : "Wanderer".utf8ByteSize = 8 := by decide
    omega
  · cases listed

namespace Crowd

variable {relay : Relay}

theorem drawNameNumber_lt (attempts : Nat) (random : Random) :
    (drawNameNumber attempts random).1 < 10000 := by
  have drawn : (random.below32 attempts 8999).1 < 8999 :=
    Random.below32_lt (by decide) attempts random
  rw [drawNameNumber]
  dsimp only
  omega

/-- A relay that has let an agent in: it was given an address, has its bubble on or off, and has
told its identity. -/
def welcome (relay : Relay) (id : PeerId) (shy : Bool) (identity : Identity) (now : Instant) :
    Relay :=
  let connected := (relay.connect id .agent).2
  let reached := connected.withTransport (connected.transport.setAddress id true)
  send (reached.modifyPeer id (·.setBubble shy)) id (.avatarIdentity identity) now

theorem welcome_spec (formed : relay.directory.WellFormed) {id : PeerId}
    (absent : relay.directory.find? id = none) (shy : Bool) {identity : Identity}
    (fits : identity.Fits) (now : Instant) {wanderer : Wanderer}
    (key : wanderer.key = (relay.connect id .agent).1.key) (still : wanderer.number = 0) :
    (welcome relay id shy identity now).Serves wanderer ∧
      Relay.Concerns [id] relay (welcome relay id shy identity now) := by
  let connected := (relay.connect id .agent).2
  let reached := connected.withTransport (connected.transport.setAddress id true)
  let settled := reached.modifyPeer id (·.setBubble shy)
  let peer := (Peer.new id .agent (relay.directory.lastSession + 1)).setBubble shy
  have connects : Relay.Concerns [id] relay connected :=
    Relay.concerns_connect formed absent .agent
  have reaches : Relay.Concerns [id] connected reached :=
    Relay.concerns_setAddress connects.formed id true
  have settles : Relay.Concerns [id] reached settled :=
    Relay.concerns_modifyPeer reaches.formed id fun _ => rfl
  have there : settled.directory.find? peer.id = some peer := by
    have here : connected.directory.find? id =
        some (Peer.new id .agent (relay.directory.lastSession + 1)) := by
      rw [relay.find?_connect, if_pos rfl]
    refine (Directory.find?_modify _ id id _).trans ?_
    rw [if_pos rfl, show reached.directory = connected.directory from rfl, here]
    rfl
  have named : (InboundPacket.avatarIdentity identity).Fits := fits
  have upTo : peer.UpTo 0 := (Peer.UpTo.new id _).setBubble shy
  obtain ⟨introduced, taken⟩ := upTo.identity settled.config.scaleBounds
    (InboundPacket.format.write (.avatarIdentity identity)).length now identity
  obtain ⟨found, transport, tells⟩ := send_spec settles.formed there named now taken
  have own : wanderer.key = peer.key := by
    rw [key, Relay.connect, absent]
    rfl
  have same : wanderer.id = id := congrArg SessionKey.id own
  have active : reached.transport.hasActiveAddress id = true := by
    refine (Loopback.hasActiveAddress_setAddress _ id id true).trans ?_
    rw [if_pos rfl]
  refine ⟨⟨⟨_, ?_, ?_, still ▸ introduced⟩, ?_⟩, ?_⟩
  · rw [same]
    exact found
  · rw [own, Peer.key_sending]
  · rw [same, show (welcome relay id shy identity now).transport = reached.transport from transport]
    exact active
  · exact ((connects.trans reaches).trans settles).trans tells

/-- What joining does, whatever is drawn: someone with a short name is let in, and is the last of
the crowd. -/
theorem join_eq (crowd : Crowd) (relay : Relay) (id : PeerId) (now : Instant) :
    ∃ name < 10000, ∃ (shy : Bool) (wanderer : Wanderer) (random : Random),
      crowd.join relay id now =
        ({ crowd with wanderers := crowd.wanderers ++ [wanderer], random := random },
          welcome relay id shy (Identity.named ("Wanderer" ++ toString name)) now) ∧
      wanderer.key = (relay.connect id .agent).1.key ∧ wanderer.number = 0 := by
  simp only [join]
  generalize crowd.random.between crowd.attempts 0 Wanderer.fullCircle = angle
  generalize angle.2.between crowd.attempts 0 Wanderer.placeRadius = radius
  generalize Personality.draw crowd.attempts radius.2 = personality
  have short := drawNameNumber_lt crowd.attempts personality.2
  generalize drawNameNumber crowd.attempts personality.2 = name at short
  generalize name.2.between crowd.attempts 0 Wanderer.fullCircle = phase
  exact ⟨name.1, short, personality.1.shy, _, _, rfl, rfl, rfl⟩

/-- Who joins under an identifier that nobody has is served from then on. -/
theorem join_spec (crowd : Crowd) (formed : relay.directory.WellFormed) {id : PeerId}
    (absent : relay.directory.find? id = none) (now : Instant) :
    ∃ wanderer : Wanderer,
      (crowd.join relay id now).1.wanderers = crowd.wanderers ++ [wanderer] ∧
      wanderer.id = id ∧ wanderer.number = 0 ∧
      (crowd.join relay id now).2.Serves wanderer ∧
      Relay.Concerns [id] relay (crowd.join relay id now).2 := by
  obtain ⟨name, short, shy, wanderer, random, joined, key, still⟩ := crowd.join_eq relay id now
  have own : wanderer.id = id := by
    rw [Wanderer.id, key, Relay.connect, absent]
    rfl
  rw [joined]
  exact ⟨wanderer, rfl, own, still,
    welcome_spec formed absent shy (Identity.fits_name short) now key still⟩

/-- The entry at a place and the others are all there are. -/
theorem perm_removeAt {wanderers : List Wanderer} {place : Nat}
    (within : place < wanderers.length) :
    wanderers.Perm (wanderers[place] :: removeAt wanderers place) := by
  rcases List.eq_nil_or_concat' wanderers with rfl | ⟨rest, last, rfl⟩
  · cases within
  rw [List.length_append, List.length_singleton] at within
  rw [removeAt, List.getLast?_concat]
  dsimp only
  split
  · next final =>
    have here : place = rest.length := by simpa using final
    subst here
    rw [List.dropLast_concat, List.getElem_concat_length rfl]
    exact List.perm_append_singleton last rest
  · next inner =>
    have before : place < rest.length := by
      simp only [List.length_append, List.length_singleton] at inner
      omega
    rw [List.dropLast_concat, List.getElem_append_left before]
    have others : rest.Perm (rest[place] :: rest.eraseIdx place) :=
      (List.getElem_cons_eraseIdx_perm before).symm
    have filled : (rest.set place last).Perm (last :: rest.eraseIdx place) :=
      List.set_perm_cons_eraseIdx before last
    calc List.Perm (rest ++ [last]) (last :: rest) := List.perm_append_singleton last rest
      List.Perm _ (last :: rest[place] :: rest.eraseIdx place) := others.cons last
      List.Perm _ (rest[place] :: last :: rest.eraseIdx place) := List.Perm.swap _ _ _
      List.Perm _ (rest[place] :: rest.set place last) := filled.symm.cons _

/-- Who leaves is one of the crowd: the end of its session is reported, and its address is
gone. -/
theorem leave_spec (crowd : Crowd) (relay : Relay) (someone : crowd.wanderers ≠ []) :
    ∃ leaver : Wanderer, crowd.wanderers.Perm (leaver :: (crowd.leave relay).1.wanderers) ∧
      (crowd.leave relay).2 = (relay.disconnect leaver.key).withTransport
        (relay.transport.forget leaver.id) := by
  have within := Random.below64_lt (List.length_pos_iff.mpr someone) crowd.attempts crowd.random
  simp only [leave, List.isEmpty_iff, someone, if_false]
  generalize crowd.random.below64 crowd.attempts crowd.wanderers.length = choice at within ⊢
  rw [List.getElem?_eq_getElem within]
  exact ⟨_, perm_removeAt within, rfl⟩

end Crowd

/-! ## Moving and reporting -/

namespace Wanderer

/-- A wanderer has moved on, in its own session and to the number that follows. -/
structure Moves (before after : Wanderer) : Prop where
  key : after.key = before.key
  number : after.number = before.number + 1

theorem Moves.id {before after : Wanderer} (moves : before.Moves after) : after.id = before.id :=
  congrArg SessionKey.id moves.key

theorem moves_walk (wanderer : Wanderer) (elapsed : Binary32) (attempts : Nat)
    (random : Random) :
    wanderer.Moves ((wanderer.decide elapsed attempts random).1.walk elapsed) := by
  unfold decide
  dsimp only
  split <;> exact ⟨rfl, rfl⟩

/-- A pose that a wanderer reports is refused only for its position. -/
theorem refuses_pose {wanderer : Wanderer} (finite : wanderer.position.isFinite = true) :
    Avatar.refuses wanderer.pose = false := by
  rw [Avatar.refuses_eq_false_iff]
  refine ⟨finite, ?_⟩
  rw [pose, List.length_map, List.length_range]
  decide

theorem fits_packet (wanderer : Wanderer) : wanderer.packet.Fits := by
  change wanderer.pose.joints.length < lengthLimit
  rw [pose, List.length_map, List.length_range]
  decide

section All

variable {wanderers walked : List Wanderer} (moves : List.Forall₂ Moves wanderers walked)

include moves

theorem ids_of_moves : walked.map id = wanderers.map id := by
  induction moves with
  | nil => rfl
  | cons first _ ih => rw [List.map_cons, List.map_cons, first.id, ih]

theorem exists_of_moves {moved : Wanderer} (listed : moved ∈ walked) :
    ∃ wanderer ∈ wanderers, wanderer.Moves moved := by
  induction moves with
  | nil => cases listed
  | @cons wanderer _ _ _ first _ ih =>
    rcases List.mem_cons.mp listed with rfl | later
    · exact ⟨wanderer, List.mem_cons_self, first⟩
    · obtain ⟨other, there, move⟩ := ih later
      exact ⟨other, List.mem_cons_of_mem _ there, move⟩

end All

end Wanderer

namespace Crowd

variable {relay : Relay}

def report (reported : PeerId → Instant) (relay : Relay) (wanderer : Wanderer) : Relay :=
  send relay wanderer.id wanderer.packet (reported wanderer.id)

/-- In a step everyone moves, and the reports are those of the wanderers that have moved. -/
theorem foldl_advance (elapsed : Binary32) (attempts : Nat) (reported : PeerId → Instant)
    (wanderers moved : List Wanderer) (random : Random) (relay : Relay) :
    ∃ walked after, wanderers.foldl (advance elapsed attempts reported)
          (moved, random, relay) =
        (moved ++ walked, after, walked.foldl (report reported) relay) ∧
      List.Forall₂ Wanderer.Moves wanderers walked := by
  induction wanderers generalizing moved random relay with
  | nil => exact ⟨[], random, by rw [List.append_nil]; rfl, List.Forall₂.nil⟩
  | cons wanderer rest ih =>
    let drawn := wanderer.decide elapsed attempts random
    let walker := drawn.1.walk elapsed
    have first : wanderer.Moves walker := wanderer.moves_walk elapsed attempts random
    obtain ⟨walked, after, folded, moves⟩ :=
      ih (moved ++ [walker]) drawn.2 (report reported relay walker)
    refine ⟨walker :: walked, after, ?_, List.Forall₂.cons first moves⟩
    rw [List.append_cons]
    exact folded

/-- What a step does: perhaps an exchange, then everyone moves and reports. -/
theorem step_spec (crowd : Crowd) (relay : Relay) (fresh : PeerId) (elapsed : Binary32)
    (joined : Instant) (reported : PeerId → Instant) :
    ∃ walked random, crowd.step relay fresh elapsed joined reported =
        ({ (crowd.exchange relay fresh joined).1 with wanderers := walked, random := random },
          walked.foldl (report reported) (crowd.exchange relay fresh joined).2) ∧
      List.Forall₂ Wanderer.Moves (crowd.exchange relay fresh joined).1.wanderers walked := by
  simp only [step]
  generalize crowd.exchange relay fresh joined = exchanged
  obtain ⟨walked, random, folded, moves⟩ :=
    foldl_advance elapsed exchanged.1.attempts reported exchanged.1.wanderers []
      exchanged.1.random exchanged.2
  rw [folded, List.nil_append]
  exact ⟨walked, random, rfl, moves⟩

/-- The update of a wanderer that has moved on is taken in, if its position is finite. -/
theorem report_spec (formed : relay.directory.WellFormed) {wanderer moved : Wanderer}
    (serves : relay.Serves wanderer) (moves : wanderer.Moves moved)
    (finite : moved.position.isFinite = true) (reported : PeerId → Instant) :
    (report reported relay moved).Serves moved ∧
      Relay.Concerns [moved.id] relay (report reported relay moved) := by
  obtain ⟨peer, there, key, upTo⟩ := serves.connected
  have own : moved.id = peer.id := by
    rw [moves.id, Wanderer.id, ← key]
    rfl
  rw [← moves.id, own] at there
  obtain ⟨updated, taken⟩ := upTo.update relay.config.scaleBounds
    (InboundPacket.format.write moved.packet).length (reported moved.id)
    (Wanderer.refuses_pose finite)
  rw [← moves.number] at updated taken
  obtain ⟨found, transport, concerns⟩ := send_spec formed there moved.fits_packet _ taken
  rw [← own] at found transport concerns
  refine ⟨⟨⟨_, found, ?_, updated⟩, ?_⟩, concerns⟩
  · rw [Peer.key_sending, key, moves.key]
  · rw [show (report reported relay moved).transport = relay.transport from transport, moves.id]
    exact serves.reachable

/-- When everyone has reported, everyone is served again. -/
theorem reports_spec (formed : relay.directory.WellFormed) {wanderers walked : List Wanderer}
    (moves : List.Forall₂ Wanderer.Moves wanderers walked)
    (distinct : (walked.map Wanderer.id).Nodup)
    (served : ∀ wanderer ∈ wanderers, relay.Serves wanderer)
    (finite : ∀ wanderer ∈ walked, wanderer.position.isFinite = true)
    (reported : PeerId → Instant) :
    (∀ wanderer ∈ walked, (walked.foldl (report reported) relay).Serves wanderer) ∧
      Relay.Concerns (walked.map Wanderer.id) relay (walked.foldl (report reported) relay) := by
  induction moves generalizing relay with
  | nil => exact ⟨fun _ listed => absurd listed List.not_mem_nil, Relay.Concerns.refl formed⟩
  | @cons wanderer moved wanderers walked first rest ih =>
    obtain ⟨alone, distinct⟩ := List.nodup_cons.mp distinct
    obtain ⟨finiteFirst, finite⟩ := List.forall_mem_cons.mp finite
    obtain ⟨servedFirst, served⟩ := List.forall_mem_cons.mp served
    obtain ⟨serves, concerns⟩ := report_spec formed servedFirst first finiteFirst reported
    -- The others have other identifiers, so they are still served as before.
    have still : ∀ other ∈ wanderers, (report reported relay moved).Serves other := by
      intro other listed
      refine (served other listed).of_concerns concerns fun same => alone ?_
      rw [← List.mem_singleton.mp same, Wanderer.ids_of_moves rest]
      exact List.mem_map_of_mem listed
    obtain ⟨all, others⟩ := ih concerns.formed distinct still finite
    refine ⟨List.forall_mem_cons.mpr ⟨serves.of_concerns others alone, all⟩, ?_⟩
    exact (concerns.mono (List.cons_subset_cons _ (List.nil_subset _))).trans
      (others.mono (List.subset_cons_self _ _))

theorem length_join (crowd : Crowd) (relay : Relay) (id : PeerId) (now : Instant) :
    (crowd.join relay id now).1.wanderers.length = crowd.wanderers.length + 1 := by
  obtain ⟨_, _, _, wanderer, _, joined, -⟩ := crowd.join_eq relay id now
  rw [joined, List.length_append, List.length_singleton]

theorem length_leave (crowd : Crowd) (relay : Relay) (someone : crowd.wanderers ≠ []) :
    (crowd.leave relay).1.wanderers.length + 1 = crowd.wanderers.length := by
  obtain ⟨leaver, remaining, -⟩ := crowd.leave_spec relay someone
  exact remaining.length_eq.symm

theorem length_exchange (crowd : Crowd) (relay : Relay) (fresh : PeerId) (now : Instant)
    (someone : crowd.wanderers ≠ []) :
    (crowd.exchange relay fresh now).1.wanderers.length = crowd.wanderers.length := by
  simp only [exchange]
  split
  · rfl
  · generalize crowd.random.happens crowd.churn = drawn
    split
    · rw [length_join]
      exact length_leave { crowd with random := drawn.2 } relay someone
    · rfl

theorem length_step (crowd : Crowd) (relay : Relay) (fresh : PeerId) (elapsed : Binary32)
    (joined : Instant) (reported : PeerId → Instant) (someone : crowd.wanderers ≠ []) :
    (crowd.step relay fresh elapsed joined reported).1.wanderers.length =
      crowd.wanderers.length := by
  obtain ⟨walked, random, stepped, moves⟩ :=
    crowd.step_spec relay fresh elapsed joined reported
  rw [stepped, ← crowd.length_exchange relay fresh joined someone]
  exact moves.length_eq.symm

end Crowd

end AvatarRelay
