/-
# Departures

What the reported events do to a relay. One event removes at most one peer; from then
on every session that is still connected is owed a purge of it. A replaced session is
owed a purge as well, though its identifier is still connected. No event cancels what
is owed already.
-/

import AvatarRelay.Proofs.Mail
import AvatarRelay.Relay.Departure

namespace AvatarRelay

namespace Relay

/-- A session is to be purged of a peer: a purge that is carried on lists it, or a
replaced session of that peer is among the events to come. -/
def Owes (relay : Relay) (coming : List PeerEvent) (holder : SessionKey) (departed : PeerId) :
    Prop :=
  (∃ purge ∈ relay.purges, purge.departed = departed ∧ holder ∈ purge.remaining) ∨
    ∃ key, PeerEvent.replaced key ∈ coming ∧ key.id = departed

/-- The mail that tells the remaining agents of a peer that was removed. -/
def farewell (order : VisitOrder) (directory : Directory) (peer : Peer) (reason : KillReason) :
    List Parcel :=
  if peer.role.carriesAvatar && peer.client.isSome then
    (directory.agents order).map fun other => ⟨other.id, .killAvatar peer.id reason⟩
  else []

def eventMail (relay : Relay) (order : VisitOrder) (event : PeerEvent) : List Parcel :=
  match event.killReason? with
  | none => []
  | some reason =>
    match relay.directory.removeSession event.key with
    | none => []
    | some (peer, directory) => farewell order directory peer reason

def eventsMail (relay : Relay) (order : VisitOrder) : List PeerEvent → List Parcel
  | [] => []
  | event :: rest =>
    relay.eventMail order event ++ (relay.applyEvent order event).eventsMail order rest

variable (relay : Relay) (order : VisitOrder)

theorem notifyAgents_eq (avatar : PeerId) (reason : KillReason) :
    relay.notifyAgents order avatar reason =
      relay.withTransport (relay.transport.deliverAll
        ((relay.directory.agents order).map fun other =>
          ⟨other.id, .killAvatar avatar reason⟩)) := by
  rw [Loopback.deliverAll, List.foldl_map]
  rfl

/-- Announcing a departure hands over its mail; the rest that later ticks depend on
stays. -/
theorem announce_spec (peer : Peer) (reason : KillReason) :
    (relay.announce order peer reason).directory = relay.directory ∧
      (relay.announce order peer reason).transport =
        relay.transport.deliverAll (farewell order relay.directory peer reason) ∧
      (relay.announce order peer reason).purges = relay.purges ∧
      (relay.announce order peer reason).events = relay.events ∧
      (relay.announce order peer reason).fanout = relay.fanout := by
  simp only [announce, farewell]
  cases peer.role.carriesAvatar && peer.client.isSome with
  | false => exact ⟨rfl, rfl, rfl, rfl, rfl⟩
  | true =>
    simp only [if_true, notifyAgents_eq]
    exact ⟨rfl, rfl, rfl, rfl, rfl⟩

/-- What scheduling a purge adds to what is owed: every other connected session owes it. -/
theorem owes_schedulePurge (coming : List PeerEvent) {holder : Peer} {departed other : PeerId}
    (connected : relay.directory.find? holder.id = some holder) (apart : holder.id ≠ other) :
    (relay.schedulePurge order departed).Owes coming holder.key other ↔
      relay.Owes coming holder.key other ∨ other = departed := by
  simp only [Owes, schedulePurge, List.mem_append, List.mem_singleton]
  constructor
  · rintro (⟨purge, before | rfl, rfl, within⟩ | coming)
    · exact Or.inl (Or.inl ⟨purge, before, rfl, within⟩)
    · exact Or.inr rfl
    · exact Or.inl (Or.inr coming)
  · rintro ((⟨purge, before, rfl, within⟩ | coming) | rfl)
    · exact Or.inl ⟨purge, Or.inl before, rfl, within⟩
    · exact Or.inr coming
    · have listed : holder.key ∈
          (relay.directory.matching order (·.id ≠ other)).map Peer.key :=
        List.mem_map_of_mem
          (relay.directory.mem_matching.mpr ⟨⟨_, connected⟩, decide_eq_true apart⟩)
      exact Or.inl ⟨_, Or.inr rfl, rfl, listed⟩

/-- A replaced session to come makes its peer owed. -/
theorem owes_replaced_cons (key : SessionKey) (coming : List PeerEvent) (holder : SessionKey)
    (other : PeerId) :
    relay.Owes (.replaced key :: coming) holder other ↔
      relay.Owes coming holder other ∨ other = key.id := by
  simp only [Owes, List.mem_cons, PeerEvent.replaced.injEq]
  constructor
  · rintro (purge | ⟨_, rfl | later, rfl⟩)
    · exact Or.inl (Or.inl purge)
    · exact Or.inr rfl
    · exact Or.inl (Or.inr ⟨_, later, rfl⟩)
  · rintro ((purge | ⟨_, later, rfl⟩) | rfl)
    · exact Or.inl purge
    · exact Or.inr ⟨_, Or.inr later, rfl⟩
    · exact Or.inr ⟨_, Or.inl rfl, rfl⟩

/-- Any other event to come makes nobody owed. -/
theorem owes_ending_cons {event : PeerEvent} {reason : KillReason}
    (ending : event.killReason? = some reason) (coming : List PeerEvent) (holder : SessionKey)
    (other : PeerId) :
    relay.Owes (event :: coming) holder other ↔ relay.Owes coming holder other := by
  have different (key : SessionKey) : .replaced key ≠ event := by
    rintro rfl
    cases ending
  simp [Owes, different]

/-- What some of the reported events do: peers are removed and nobody else is touched,
those who stay owe a purge of those who left, and the agents among them are told of
everyone who left with an avatar. -/
structure Settles (before : Relay) (coming : List PeerEvent) (mail : List Parcel)
    (after : Relay) (rest : List PeerEvent) : Prop where
  kept : ∀ id, after.directory.find? id = before.directory.find? id ∨
    after.directory.find? id = none
  lastSession : after.directory.lastSession = before.directory.lastSession
  owed : ∀ {holder : Peer} {departed : PeerId},
    after.directory.find? holder.id = some holder → holder.id ≠ departed →
      (after.Owes rest holder.key departed ↔ before.Owes coming holder.key departed ∨
        before.directory.find? departed ≠ none ∧ after.directory.find? departed = none)
  told : ∀ {holder : Peer} (departed : PeerId),
    after.directory.find? holder.id = some holder → holder.role.carriesAvatar = true →
      ((∃ reason, ⟨holder.id, .killAvatar departed reason⟩ ∈ mail) ↔
        after.directory.find? departed = none ∧ ∃ gone,
          before.directory.find? departed = some gone ∧ gone.role.carriesAvatar = true ∧
            gone.client.isSome = true)
  kills : ∀ parcel ∈ mail, ∃ avatar reason, parcel.packet = .killAvatar avatar reason
  delivered : after.transport = before.transport.deliverAll mail
  fanout : after.fanout = before.fanout
  events : after.events = before.events

namespace Settles

variable {before after last : Relay} {coming rest final : List PeerEvent}
  {mail more : List Parcel}

/-- Nothing happens when there is nothing to take up. -/
theorem refl (relay : Relay) (coming : List PeerEvent) :
    relay.Settles coming [] relay coming where
  kept _ := Or.inl rfl
  lastSession := rfl
  owed _ _ := by simp
  told _ _ _ := by
    constructor
    · rintro ⟨reason, listed⟩
      cases listed
    · rintro ⟨gone, peer, there, -⟩
      rw [gone] at there
      cases there
  kills _ listed := by cases listed
  delivered := rfl
  fanout := rfl
  events := rfl

/-- Who is connected afterwards was connected before, as the same session. -/
theorem find?_before (settles : before.Settles coming mail after rest) {id : PeerId}
    {peer : Peer} (connected : after.directory.find? id = some peer) :
    before.directory.find? id = some peer := by
  rcases settles.kept id with same | gone
  · rw [← same]
    exact connected
  · rw [gone] at connected
    cases connected

theorem wellFormed (settles : before.Settles coming mail after rest)
    (formed : before.directory.WellFormed) : after.directory.WellFormed :=
  formed.of_kept settles.lastSession fun connected =>
    ⟨_, settles.find?_before connected, rfl⟩

/-- Who has left does not come back. -/
theorem find?_none (settles : before.Settles coming mail after rest) {id : PeerId}
    (gone : before.directory.find? id = none) : after.directory.find? id = none := by
  rcases settles.kept id with same | gone
  · rw [same]
    exact gone
  · exact gone

/-- What two groups of events do, one after the other. -/
theorem trans (first : before.Settles coming mail after rest)
    (second : after.Settles rest more last final) :
    before.Settles coming (mail ++ more) last final where
  kept id := by
    rcases second.kept id with same | gone
    · rw [same]
      exact first.kept id
    · exact Or.inr gone
  lastSession := second.lastSession.trans first.lastSession
  owed {holder departed} connected apart := by
    rw [second.owed connected apart, first.owed (second.find?_before connected) apart,
      or_assoc]
    apply or_congr_right
    constructor
    · rintro (⟨there, gone⟩ | ⟨there, gone⟩)
      · exact ⟨there, second.find?_none gone⟩
      · exact ⟨fun absent => there (first.find?_none absent), gone⟩
    · rintro ⟨there, gone⟩
      by_cases between : after.directory.find? departed = none
      · exact Or.inl ⟨there, between⟩
      · exact Or.inr ⟨between, gone⟩
  told {holder} departed connected agent := by
    have early := first.told departed (second.find?_before connected) agent
    have late := second.told departed connected agent
    constructor
    · rintro ⟨reason, listed⟩
      rcases List.mem_append.mp listed with listed | listed
      · obtain ⟨gone, peer⟩ := early.mp ⟨reason, listed⟩
        exact ⟨second.find?_none gone, peer⟩
      · obtain ⟨gone, peer, there, avatar⟩ := late.mp ⟨reason, listed⟩
        exact ⟨gone, peer, first.find?_before there, avatar⟩
    · rintro ⟨gone, peer, there, avatar⟩
      rcases first.kept departed with same | between
      · rw [there] at same
        obtain ⟨reason, listed⟩ := late.mpr ⟨gone, peer, same, avatar⟩
        exact ⟨reason, List.mem_append_right _ listed⟩
      · obtain ⟨reason, listed⟩ := early.mpr ⟨between, peer, there, avatar⟩
        exact ⟨reason, List.mem_append_left _ listed⟩
  kills parcel listed := by
    rcases List.mem_append.mp listed with listed | listed
    · exact first.kills parcel listed
    · exact second.kills parcel listed
  delivered := by
    rw [second.delivered, first.delivered, Loopback.deliverAll_append]
  fanout := second.fanout.trans first.fanout
  events := second.events.trans first.events

end Settles

/-- The end of a session that is not connected does nothing. -/
theorem settles_stale {event : PeerEvent} {reason : KillReason} (rest : List PeerEvent)
    (ending : event.killReason? = some reason)
    (absent : relay.directory.findSession? event.key = none) :
    relay.Settles (event :: rest) (relay.eventMail order event) (relay.applyEvent order event)
      rest := by
  have missing := relay.directory.removeSession_eq_none_iff.mpr absent
  have nothing : relay.eventMail order event = [] := by
    simp only [eventMail, ending, missing]
  have unchanged : relay.applyEvent order event = relay := by
    simp only [applyEvent, ending, missing]
  rw [nothing, unchanged]
  have same := Settles.refl relay rest
  exact { same with
    owed := fun connected apart => by
      rw [relay.owes_ending_cons ending]
      exact same.owed connected apart }

/-- A replaced session that is taken up turns what was to come into a purge. -/
theorem settles_replaced (key : SessionKey) (rest : List PeerEvent) :
    relay.Settles (.replaced key :: rest) (relay.eventMail order (.replaced key))
      (relay.applyEvent order (.replaced key)) rest := by
  have scheduled : relay.applyEvent order (.replaced key) = relay.schedulePurge order key.id := rfl
  have same := Settles.refl relay rest
  rw [scheduled]
  exact { same with
    owed := fun {holder departed} connected apart => by
      rw [relay.owes_schedulePurge order rest connected apart, relay.owes_replaced_cons]
      simp [schedulePurge] }

/-- The agents that stay, and nobody else, are told of an avatar that left. -/
theorem mem_farewell {order : VisitOrder} {directory : Directory} {peer : Peer}
    {reason : KillReason} {parcel : Parcel} :
    parcel ∈ farewell order directory peer reason ↔
      (peer.role.carriesAvatar = true ∧ peer.client.isSome = true) ∧
        ∃ other ∈ directory.agents order, parcel = ⟨other.id, .killAvatar peer.id reason⟩ := by
  rw [farewell]
  split
  · next avatar =>
    simp [(Bool.and_eq_true _ _).mp avatar, eq_comm]
  · next plain =>
    rw [Bool.and_eq_true] at plain
    simp [plain]

/-- When a peer is taken out, its farewell tells every agent that stays of it alone. -/
theorem told_farewell {order : VisitOrder} {directory : Directory} {peer holder : Peer}
    {reason : KillReason} (there : directory.find? peer.id = some peer) (departed : PeerId)
    (stays : (directory.without peer.id).find? holder.id = some holder)
    (agent : holder.role.carriesAvatar = true) :
    (∃ reason', ⟨holder.id, .killAvatar departed reason'⟩ ∈
        farewell order (directory.without peer.id) peer reason) ↔
      (directory.without peer.id).find? departed = none ∧ ∃ gone,
        directory.find? departed = some gone ∧ gone.role.carriesAvatar = true ∧
          gone.client.isSome = true := by
  simp only [mem_farewell, Parcel.mk.injEq, OutboundPacket.killAvatar.injEq]
  constructor
  · rintro ⟨_, avatar, _, -, -, rfl, rfl⟩
    exact ⟨((directory.leaves_without there _).mpr rfl).2, peer, there, avatar⟩
  · rintro ⟨absent, gone, before, avatar⟩
    have same : departed = peer.id :=
      (directory.leaves_without there departed).mp ⟨by simp [before], absent⟩
    rw [same, there] at before
    cases before
    have listed : holder ∈ (directory.without peer.id).agents order :=
      (directory.without peer.id).mem_agents.mpr ⟨⟨_, stays⟩, agent⟩
    exact ⟨reason, avatar, holder, listed, rfl, same, rfl⟩

def without (id : PeerId) : Relay :=
  { relay with directory := relay.directory.without id }

/-- The end of a connected session takes its peer out. -/
theorem settles_ended {event : PeerEvent} {reason : KillReason} (rest : List PeerEvent)
    (keyed : relay.directory.Keyed) (ending : event.killReason? = some reason) {peer : Peer}
    (found : relay.directory.findSession? event.key = some peer) :
    relay.Settles (event :: rest) (relay.eventMail order event) (relay.applyEvent order event)
      rest := by
  obtain ⟨there, -⟩ := relay.directory.findSession?_eq_some_iff.mp found
  have own : peer.id = event.key.id := keyed there
  rw [← own] at there
  have removed : relay.directory.removeSession event.key =
      some (peer, relay.directory.without peer.id) :=
    relay.directory.removeSession_eq_some_iff.mpr ⟨found, by rw [own]⟩
  have mailed : relay.eventMail order event =
      farewell order (relay.directory.without peer.id) peer reason := by
    simp only [eventMail, ending, removed]
  have applied : relay.applyEvent order event =
      ((relay.without peer.id).announce order peer reason).schedulePurge order peer.id := by
    simp only [applyEvent, ending, removed, own, without]
  obtain ⟨directory, transport, purges, events, fanout⟩ :=
    (relay.without peer.id).announce_spec order peer reason
  rw [mailed, applied]
  refine ⟨?kept, ?lastSession, ?owed, ?told, ?kills, transport, fanout, events⟩
  case kept =>
    intro id
    rw [schedulePurge, directory, without, Directory.find?_without]
    split
    · exact Or.inr rfl
    · exact Or.inl rfl
  case lastSession =>
    rw [schedulePurge, directory]
    rfl
  case owed =>
    intro holder departed connected apart
    have unchanged : ((relay.without peer.id).announce order peer reason).Owes rest holder.key
        departed ↔ relay.Owes rest holder.key departed := by
      rw [Owes, purges]
      rfl
    rw [((relay.without peer.id).announce order peer reason).owes_schedulePurge order rest
      connected apart, unchanged, relay.owes_ending_cons ending]
    refine or_congr_right ((relay.directory.leaves_without there departed).symm.trans
      (Iff.of_eq ?_))
    rw [schedulePurge, directory, without]
  case told =>
    intro holder departed connected agent
    rw [schedulePurge, directory] at connected ⊢
    exact told_farewell there departed connected agent
  case kills =>
    intro parcel listed
    obtain ⟨-, other, -, rfl⟩ := mem_farewell.mp listed
    exact ⟨peer.id, reason, rfl⟩

theorem settles_applyEvent (keyed : relay.directory.Keyed) (event : PeerEvent)
    (rest : List PeerEvent) :
    relay.Settles (event :: rest) (relay.eventMail order event) (relay.applyEvent order event)
      rest := by
  cases ending : event.killReason? with
  | none =>
    cases event with
    | replaced key => exact relay.settles_replaced order key rest
    | disconnected key => cases ending
    | killRequested key => cases ending
  | some reason =>
    cases found : relay.directory.findSession? event.key with
    | none => exact relay.settles_stale order rest ending found
    | some peer => exact relay.settles_ended order rest keyed ending found

/-- What several events do. -/
theorem settles_events (formed : relay.directory.WellFormed) (events : List PeerEvent) :
    relay.Settles events (relay.eventsMail order events)
      (events.foldl (applyEvent order) relay) [] := by
  induction events generalizing relay with
  | nil => exact Settles.refl relay []
  | cons event rest ih =>
    have first := relay.settles_applyEvent order formed.keyed event rest
    exact first.trans (ih _ (first.wellFormed formed))

/-- The relay with its reported events taken out. -/
def drained (relay : Relay) : Relay :=
  { relay with events := { relay.events with pending := [] } }

def departureMail (relay : Relay) (order : VisitOrder) : List Parcel :=
  relay.drained.eventsMail order relay.events.pending

/-- What the reported events do at the beginning of a tick. -/
theorem settles_processEvents (formed : relay.directory.WellFormed) :
    relay.drained.Settles relay.events.pending (relay.departureMail order)
      (relay.processEvents order) [] :=
  relay.drained.settles_events order formed relay.events.pending

end Relay

end AvatarRelay
