/-
# Farewells

Receivers are told that an avatar is gone when a tick removes a session that had one. A
session that is replaced before it sends an update is removed without a word, though its
predecessor was shown: the farewell goes by the session that ends, not by what was shown.
So a receiver is told of a peer that has left exactly if some session with an avatar was
removed since.
-/

import AvatarRelay.Proofs.Memory

namespace AvatarRelay

namespace OutboundPacket

def kills (packet : OutboundPacket) (avatar : PeerId) : Bool :=
  match packet with
  | killAvatar gone _ => gone = avatar
  | bulkAvatarData _ | avatarIdentity .. => false

theorem kills_iff {packet : OutboundPacket} {avatar : PeerId} :
    packet.kills avatar = true ↔ ∃ reason, packet = .killAvatar avatar reason := by
  cases packet with
  | killAvatar gone reason => simp [kills]
  | bulkAvatarData batch => simp [kills]
  | avatarIdentity avatar identity => simp [kills]

end OutboundPacket

namespace Relay

/-- What a tick sends to a peer, as the record of the peer takes it up. -/
def sentBy (relay : Relay) (order : VisitOrder) (busy : SessionKey → Bool) (began : Instant)
    (id : PeerId) : List OutboundPacket :=
  if relay.transport.hasActiveAddress id then Parcel.packetsTo id (relay.tickMail order busy began)
  else []

def hasAvatar (relay : Relay) (id : PeerId) : Bool :=
  (relay.directory.find? id).any fun peer => peer.role.carriesAvatar && peer.client.isSome

def tells (receiver departed : PeerId) (relay : Relay) (order : VisitOrder)
    (busy : SessionKey → Bool) (began _ended : Instant) : Bool :=
  (relay.sentBy order busy began receiver).any (·.kills departed)

def shows (receiver sender : PeerId) (relay : Relay) (order : VisitOrder) (busy : SessionKey → Bool)
    (began _ended : Instant) : Bool :=
  (relay.sentBy order busy began receiver).any (·.forwards sender)

/-- A tick removes a peer that had an avatar. -/
def loses (departed : PeerId) (relay : Relay) (order : VisitOrder) (busy : SessionKey → Bool)
    (began ended : Instant) : Bool :=
  relay.hasAvatar departed &&
    ((relay.tick order busy began ended).2.directory.find? departed).isNone

def passes (test : Relay → VisitOrder → (SessionKey → Bool) → Instant → Instant → Bool)
    (relay : Relay) : Operation → Bool
  | .tick order busy began ended => test relay order busy began ended
  | _ => false

def someTick (test : Relay → VisitOrder → (SessionKey → Bool) → Instant → Instant → Bool)
    (relay : Relay) : List Operation → Bool
  | [] => false
  | operation :: rest =>
    passes test relay operation || someTick test (relay.apply operation) rest

/-- A session is connected as an agent and can be reached. -/
def reaches (relay : Relay) (key : SessionKey) : Bool :=
  (relay.directory.findSession? key).any (·.reachable relay.transport)

def keeps (key : SessionKey) (relay : Relay) : List Operation → Bool
  | [] => relay.reaches key
  | operation :: rest => relay.reaches key && keeps key (relay.apply operation) rest

variable {relay : Relay}

/-- A pass tells nobody that an avatar is gone. -/
theorem kills_pass {pass : Pass} {parcel : Parcel} (sent : parcel ∈ pass.mail)
    (departed : PeerId) : parcel.packet.kills departed = false := by
  obtain ⟨own, -, client, -, due⟩ := Pass.visit_of_mail sent
  rcases List.mem_append.mp due with identity | batch
  · obtain ⟨avatar, value, same⟩ := Pass.identities_visit _ _ _ identity
    rw [same]
    rfl
  · split at batch
    · cases batch
    · rw [List.mem_singleton.mp batch]
      rfl

theorem hasAvatar_iff {id : PeerId} :
    relay.hasAvatar id = true ↔ ∃ peer, relay.directory.find? id = some peer ∧
      peer.role.carriesAvatar = true ∧ peer.client.isSome = true := by
  simp [hasAvatar, Option.any_eq_true]

/-- What a tick sends about those who are gone to a receiver that can be reached. -/
theorem tells_iff (order : VisitOrder) (busy : SessionKey → Bool) (began ended : Instant)
    {receiver : PeerId} (departed : PeerId)
    (active : relay.transport.hasActiveAddress receiver = true) :
    tells receiver departed relay order busy began ended = true ↔
      ∃ reason,
        ⟨receiver, .killAvatar departed reason⟩ ∈ (relay.timed began).departureMail order := by
  rw [tells, sentBy, if_pos active, List.any_eq_true]
  constructor
  · rintro ⟨packet, sent, killing⟩
    rcases List.mem_append.mp (Parcel.mem_packetsTo.mp sent) with departure | pass
    · obtain ⟨reason, rfl⟩ := OutboundPacket.kills_iff.mp killing
      exact ⟨reason, departure⟩
    · rw [kills_pass pass departed] at killing
      cases killing
  · rintro ⟨reason, departure⟩
    exact ⟨_, Parcel.mem_packetsTo.mpr (List.mem_append_left _ departure),
      OutboundPacket.kills_iff.mpr ⟨reason, rfl⟩⟩

theorem reaches_iff {key : SessionKey} :
    relay.reaches key = true ↔ ∃ peer, relay.directory.findSession? key = some peer ∧
      peer.reachable relay.transport = true :=
  Option.any_eq_true _ _

/-- A tick tells a receiver that stays of a peer exactly if it removes that peer with its
avatar. -/
theorem tells_eq_loses (formed : relay.directory.WellFormed) (order : VisitOrder)
    (busy : SessionKey → Bool) (began ended : Instant) {receiver : SessionKey} (departed : PeerId)
    (reached : relay.reaches receiver = true)
    (stays : (relay.apply (.tick order busy began ended)).reaches receiver = true) :
    tells receiver.id departed relay order busy began ended =
      loses departed relay order busy began ended := by
  obtain ⟨holder, session, reachable⟩ := reaches_iff.mp reached
  obtain ⟨same, staying, -⟩ := reaches_iff.mp stays
  obtain ⟨connected, -⟩ := (Directory.findSession?_eq_some_iff _).mp session
  obtain ⟨still, -⟩ := (Directory.findSession?_eq_some_iff _).mp staying
  obtain ⟨change, maps, -⟩ := relay.find?_tick_settled order busy began ended formed
  have settles := relay.settles_timed order began formed
  have own : holder.id = receiver.id := formed.keyed connected
  rw [← own] at connected still ⊢
  obtain ⟨agent, active⟩ := (Bool.and_eq_true _ _).mp reachable
  have settled :
      ((relay.timed began).processEvents order).directory.find? holder.id = some holder := by
    rcases settles.kept holder.id with kept | gone
    · exact kept.trans connected
    · rw [apply, maps, gone] at still
      cases still
  rw [Bool.eq_iff_iff, tells_iff order busy began ended departed active,
    settles.told departed settled agent, loses, Bool.and_eq_true, Option.isNone_iff_eq_none,
    maps, Option.map_eq_none_iff, hasAvatar_iff, and_comm]
  rfl

/-- A receiver that stays is told of a peer in some tick exactly if some tick removes that
peer with its avatar. -/
theorem someTick_tells (traced : relay.Traced) (later : List Operation) {receiver : SessionKey}
    (departed : PeerId) (steady : keeps receiver relay later = true) :
    someTick (tells receiver.id departed) relay later =
      someTick (loses departed) relay later := by
  induction later generalizing relay with
  | nil => rfl
  | cons operation rest ih =>
    obtain ⟨reached, steady⟩ := (Bool.and_eq_true _ _).mp steady
    have stays : (relay.apply operation).reaches receiver = true := by
      cases rest with
      | nil => exact steady
      | cons _ _ => exact ((Bool.and_eq_true _ _).mp steady).1
    have same : passes (tells receiver.id departed) relay operation =
        passes (loses departed) relay operation := by
      cases operation with
      | tick order busy began ended =>
        exact tells_eq_loses traced.formed order busy began ended departed reached stays
      | connect _ _ | receive _ _ _ | disconnect _ | rewire _ => rfl
    rw [someTick, someTick, same, ih (traced.apply operation) steady]

/-- Steady operations leave every peer its avatar. -/
theorem Steady.hasAvatar {after : Relay} (steady : relay.Steady after) {id : PeerId}
    (shown : relay.hasAvatar id = true) : after.hasAvatar id = true := by
  obtain ⟨peer, there, carries, present⟩ := hasAvatar_iff.mp shown
  obtain ⟨kin, found, alike⟩ := steady.found there
  exact hasAvatar_iff.mpr ⟨kin, found, by rw [alike.role, carries], alike.present present⟩

/-- A peer with an avatar keeps it through any operation but its own connection, unless a
tick removes it. -/
theorem hasAvatar_apply (traced : relay.Traced) {departed : PeerId} {operation : Operation}
    (shown : relay.hasAvatar departed = true)
    (other : ∀ role, operation ≠ .connect departed role) :
    passes (loses departed) relay operation = true ∨
      (relay.apply operation).hasAvatar departed = true := by
  cases operation with
  | connect id role =>
    obtain ⟨peer, there, avatar⟩ := hasAvatar_iff.mp shown
    have apart : departed ≠ id := by
      rintro rfl
      exact other role rfl
    refine Or.inr (hasAvatar_iff.mpr ⟨peer, ?_, avatar⟩)
    rw [apply, find?_connect, if_neg apart, there]
  | receive sender bytes now =>
    exact Or.inr ((relay.steady_receive traced.formed sender bytes now).hasAvatar shown)
  | disconnect key => exact Or.inr ((relay.steady_push rfl).hasAvatar shown)
  | rewire transport =>
    have steady : relay.Steady (relay.withTransport transport) := Steady.of_eq rfl rfl rfl
    exact Or.inr (steady.hasAvatar shown)
  | tick order busy began ended =>
    rw [passes, loses, shown, Bool.true_and, Option.isNone_iff_eq_none]
    obtain ⟨change, maps, changes⟩ :=
      relay.find?_tick_settled order busy began ended traced.formed
    obtain ⟨peer, there, carries, present⟩ := hasAvatar_iff.mp shown
    rcases (relay.settles_timed order began traced.formed).kept departed with same | gone
    · have found := maps departed
      rw [same, show (relay.timed began).drained.directory = relay.directory from rfl, there,
        Option.map_some] at found
      refine Or.inr (hasAvatar_iff.mpr ⟨change peer, found, ?_, ?_⟩)
      · rw [(changes peer).2.1, carries]
      · rw [(changes peer).2.2.1, present]
    · exact Or.inl (by rw [maps, gone, Option.map_none])

/-- A peer with an avatar that does not connect again and is gone in the end was removed by
some tick with its avatar. -/
theorem someTick_loses (traced : relay.Traced) (later : List Operation) {departed : PeerId}
    (shown : relay.hasAvatar departed = true)
    (once : ∀ role, .connect departed role ∉ later)
    (gone : (relay.run later).directory.find? departed = none) :
    someTick (loses departed) relay later = true := by
  induction later generalizing relay with
  | nil =>
    obtain ⟨peer, there, -⟩ := hasAvatar_iff.mp shown
    rw [show relay.run [] = relay from rfl, there] at gone
    cases gone
  | cons operation rest ih =>
    have other (role : Role) : operation ≠ .connect departed role := by
      rintro rfl
      exact once role List.mem_cons_self
    rw [someTick, Bool.or_eq_true]
    refine (hasAvatar_apply traced shown other).imp_right fun still => ?_
    exact ih (traced.apply operation) still
      (fun role later => once role (List.mem_cons_of_mem _ later)) gone

/-- Who was shown in a tick has an avatar after it. -/
theorem hasAvatar_of_shows (formed : relay.directory.WellFormed) (order : VisitOrder)
    (busy : SessionKey → Bool) (began ended : Instant) {receiver sender : PeerId}
    (shown : shows receiver sender relay order busy began ended = true) :
    (relay.apply (.tick order busy began ended)).hasAvatar sender = true := by
  have proper := relay.proper_nextPass order busy began formed
  have settles := relay.settles_timed order began formed
  unfold shows sentBy at shown
  split at shown
  · rw [tickMail, Parcel.packetsTo_append, List.any_append, Bool.or_eq_true] at shown
    rcases shown with departure | forwarded
    · obtain ⟨packet, sent, forwarding⟩ := List.any_eq_true.mp departure
      obtain ⟨avatar, reason, kill⟩ := settles.kills _ (Parcel.mem_packetsTo.mp sent)
      rw [show packet = .killAvatar avatar reason from kill] at forwarding
      cases forwarding
    · obtain ⟨peer, client, there, agent, known⟩ := proper.sender_of_forwards forwarded
      obtain ⟨change, maps, leaves⟩ := relay.find?_tick order busy began ended formed
      refine hasAvatar_iff.mpr ⟨change peer, ?_, ?_, ?_⟩
      · exact (maps sender).trans (congrArg _ there)
      · rw [(leaves peer).role, agent]
      · rw [(leaves peer).present, known]
        rfl
  · cases shown

/-- A receiver is told of a peer that has left exactly if a session with an avatar was
removed. Take a tick that shows a peer to a receiver, and a run after it through which the
receiver stays and can be reached, and at the end of which the peer is gone. The receiver is
told of it in that run exactly if some tick removes the peer while it has an avatar; and that
is so whenever the peer does not connect again. -/
theorem told_iff_lost (config : Config) (fanout : Fanout) (earlier : List Operation)
    (order : VisitOrder) (busy : SessionKey → Bool) (began ended : Instant) (later : List Operation)
    (receiver : SessionKey) (departed : PeerId)
    (shown : shows receiver.id departed ((opened config fanout).run earlier) order busy began
      ended = true)
    (steady : keeps receiver ((opened config fanout).run earlier)
      (.tick order busy began ended :: later) = true)
    (gone : ((opened config fanout).run
      (earlier ++ .tick order busy began ended :: later)).directory.find? departed = none) :
    let start := ((opened config fanout).run earlier).apply (.tick order busy began ended)
    (someTick (tells receiver.id departed) start later = true ↔
      someTick (loses departed) start later = true) ∧
    ((∀ role, .connect departed role ∉ later) →
      someTick (tells receiver.id departed) start later = true) := by
  intro start
  have traced : ((opened config fanout).run earlier).Traced :=
    (Traced.opened config fanout).run earlier
  have after : start.Traced := traced.apply (.tick order busy began ended)
  have stays : keeps receiver start later = true := ((Bool.and_eq_true _ _).mp steady).2
  have same := someTick_tells after later departed stays
  rw [same]
  refine ⟨Iff.rfl, fun once => ?_⟩
  have avatar : start.hasAvatar departed = true :=
    hasAvatar_of_shows traced.formed order busy began ended shown
  rw [run, List.foldl_append, List.foldl_cons] at gone
  exact someTick_loses after later avatar once gone

/-- An agent that was shown connects again and leaves without sending an update: those who
saw it are never told. -/
theorem untold_after_silent_session :
    let start := ((opened Config.standard (Fanout.ofSeed Config.standard.fanoutSettings 0)).run
      introduction).apply (.tick .ascending (fun _ => false) 0 0)
    let later := [.connect secondAgent .agent, .tick .ascending (fun _ => false) 1 1,
      .disconnect ⟨secondAgent, 3⟩, .tick .ascending (fun _ => false) 2 2]
    (start.run later).directory.find? secondAgent = none ∧
      someTick (tells firstAgent secondAgent) start later = false := by
  intro start later
  have untold := (told_iff_lost Config.standard (Fanout.ofSeed Config.standard.fanoutSettings 0)
    introduction .ascending (fun _ => false) 0 0 later ⟨firstAgent, 1⟩ secondAgent
    (by decide +kernel) (by decide +kernel) (by decide +kernel)).1
  have kept : someTick (loses secondAgent) start later = false := by decide +kernel
  constructor
  · decide +kernel
  · rw [Bool.eq_false_iff]
    intro told
    rw [untold.mp told] at kept
    cases kept

end Relay

end AvatarRelay
