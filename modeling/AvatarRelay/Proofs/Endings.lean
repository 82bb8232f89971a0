/-
# Endings

Which sessions a tick ends. An event names the session that it ends, so it is told apart
from a newer session of the same identifier; and a session that has ended is not there to
be ended again. What a list of events does is therefore told from the set of sessions that
it names: neither repetitions nor the order of the events matter, except for the reasons
that the remaining agents are given.
-/

import Mathlib.Data.List.Nodup
import AvatarRelay.Proofs.Farewells
import AvatarRelay.Proofs.Receipts

namespace AvatarRelay

namespace PeerEvent

def ends (event : PeerEvent) (key : SessionKey) : Bool :=
  event.killReason?.isSome && event.key = key

theorem ends_disconnected_iff {key other : SessionKey} :
    (PeerEvent.disconnected key).ends other = true ↔ key = other := by
  rw [ends, Bool.and_eq_true, decide_eq_true_iff]
  exact and_iff_right rfl

end PeerEvent

namespace Peer

/-- Some of the events report the end of the peer's session. -/
def endedBy (events : List PeerEvent) (peer : Peer) : Bool :=
  events.any (·.ends peer.key)

def hasAvatar (peer : Peer) : Bool :=
  peer.role.carriesAvatar && peer.client.isSome

theorem endedBy_append (first second : List PeerEvent) (peer : Peer) :
    peer.endedBy (first ++ second) = (peer.endedBy first || peer.endedBy second) :=
  List.any_append

theorem endedBy_singleton (event : PeerEvent) (peer : Peer) :
    peer.endedBy [event] = event.ends peer.key :=
  Bool.or_false _

/-- The order of events does not matter for who is ended by them. -/
theorem endedBy_perm {events others : List PeerEvent} (same : events.Perm others) :
    Peer.endedBy events = Peer.endedBy others :=
  funext fun _ => same.any_eq

end Peer

namespace Directory

/-- The connected peers whose sessions are ended by some events. -/
def leavers (directory : Directory) (events : List PeerEvent) : List Peer :=
  directory.toList.filter (Peer.endedBy events)

@[simp]
theorem leavers_nil (directory : Directory) : directory.leavers [] = [] :=
  List.filter_eq_nil_iff.mpr fun _ _ => Bool.false_ne_true

theorem leavers_perm (directory : Directory) {events others : List PeerEvent}
    (same : events.Perm others) : directory.leavers events = directory.leavers others := by
  rw [leavers, Peer.endedBy_perm same, leavers]

theorem size_eq_length (directory : Directory) : directory.size = directory.toList.length := by
  rw [toList, PeerMap.values_eq_map_toList, List.length_map, Std.ExtTreeMap.length_toList, size]

variable {directory middle : Directory}

namespace Keyed

variable (keyed : directory.Keyed)

include keyed

theorem mem_toList_iff {peer : Peer} :
    peer ∈ directory.toList ↔ directory.find? peer.id = some peer := by
  rw [mem_toList]
  constructor
  · rintro ⟨id, there⟩
    rw [keyed there, there]
  · exact fun there => ⟨peer.id, there⟩

theorem mem_ids_iff {id : PeerId} :
    id ∈ directory.toList.map Peer.id ↔ (directory.find? id).isSome = true := by
  rw [List.mem_map, Option.isSome_iff_exists]
  constructor
  · rintro ⟨peer, listed, rfl⟩
    exact ⟨peer, keyed.mem_toList_iff.mp listed⟩
  · rintro ⟨peer, there⟩
    exact ⟨peer, directory.mem_toList.mpr ⟨id, there⟩, keyed there⟩

theorem nodup_toList : directory.toList.Nodup :=
  keyed.nodup_ids.of_map _

theorem nodup_leavers (events : List PeerEvent) : (directory.leavers events).Nodup :=
  keyed.nodup_toList.filter _

theorem mem_leavers_iff {events : List PeerEvent} {peer : Peer} :
    peer ∈ directory.leavers events ↔
      directory.find? peer.id = some peer ∧ peer.endedBy events = true := by
  rw [leavers, List.mem_filter, keyed.mem_toList_iff]

/-- Directories with the same identifiers are of the same size. -/
theorem size_eq (others : middle.Keyed)
    (same : ∀ id, (middle.find? id).isSome = (directory.find? id).isSome) :
    middle.size = directory.size := by
  have ids : (middle.toList.map Peer.id).Perm (directory.toList.map Peer.id) := by
    rw [List.perm_ext_iff_of_nodup others.nodup_ids keyed.nodup_ids]
    intro id
    rw [others.mem_ids_iff, keyed.mem_ids_iff, same]
  rw [size_eq_length, size_eq_length, ← List.length_map (f := Peer.id), ids.length_eq,
    List.length_map]

theorem of_stays {events : List PeerEvent}
    (stays : ∀ id, middle.find? id = (directory.find? id).filter (!·.endedBy events)) :
    middle.Keyed := by
  intro id peer found
  rw [stays] at found
  exact keyed (Option.eq_some_of_filter_eq_some found)

theorem size_of_stays {events : List PeerEvent}
    (stays : ∀ id, middle.find? id = (directory.find? id).filter (!·.endedBy events)) :
    directory.size = middle.size + (directory.leavers events).length := by
  have others := keyed.of_stays stays
  have rest : middle.toList.Perm (directory.toList.filter (!·.endedBy events)) := by
    rw [List.perm_ext_iff_of_nodup others.nodup_toList (keyed.nodup_toList.filter _)]
    intro peer
    rw [others.mem_toList_iff, stays, Option.filter_eq_some_iff, List.mem_filter,
      keyed.mem_toList_iff]
  rw [size_eq_length, size_eq_length, rest.length_eq, Nat.add_comm]
  exact List.length_eq_length_filter_add _

/-- Who is ended by one group of events, or else by another that comes after it. -/
theorem leavers_append {first second : List PeerEvent}
    (stays : ∀ id, middle.find? id = (directory.find? id).filter (!·.endedBy first)) :
    (directory.leavers (first ++ second)).Perm
      (directory.leavers first ++ middle.leavers second) := by
  have others := keyed.of_stays stays
  have apart : (directory.leavers first ++ middle.leavers second).Nodup := by
    refine List.nodup_append.mpr ⟨keyed.nodup_leavers first, others.nodup_leavers second, ?_⟩
    rintro peer early _ late rfl
    have ended := (keyed.mem_leavers_iff.mp early).2
    have there := (others.mem_leavers_iff.mp late).1
    rw [stays, Option.filter_eq_some_iff] at there
    simp [ended] at there
  rw [List.perm_ext_iff_of_nodup (keyed.nodup_leavers _) apart]
  intro peer
  rw [List.mem_append, keyed.mem_leavers_iff, keyed.mem_leavers_iff, others.mem_leavers_iff,
    stays, Option.filter_eq_some_iff, Peer.endedBy_append]
  cases peer.endedBy first <;> simp

section Sole

variable {events : List PeerEvent} {peer : Peer} (there : directory.find? peer.id = some peer)
  (sole : ∀ other : Peer, other.endedBy events = true ↔ other.key = peer.key)

include there sole

/-- Events that end one session end the peer that holds it. -/
theorem leavers_of_sole : directory.leavers events = [peer] := by
  rw [← List.perm_singleton,
    List.perm_ext_iff_of_nodup (keyed.nodup_leavers _) (List.nodup_singleton peer)]
  intro other
  rw [keyed.mem_leavers_iff, sole, List.mem_singleton]
  constructor
  · rintro ⟨found, same⟩
    rw [Peer.id_eq_of_key same, there] at found
    exact (Option.some.inj found).symm
  · rintro rfl
    exact ⟨there, rfl⟩

/-- After events that end one session, everyone stays but its holder. -/
theorem find?_without_of_sole (id : PeerId) :
    (directory.without peer.id).find? id =
      (directory.find? id).filter (!·.endedBy events) := by
  rw [find?_without]
  cases found : directory.find? id with
  | none => simp
  | some other =>
    have place : other.id = id := keyed found
    by_cases here : id = peer.id
    · have same : other = peer := by
        rw [here, there] at found
        exact (Option.some.inj found).symm
      rw [if_pos here, Option.filter_some_neg]
      simp [(sole other).mpr (by rw [same])]
    · have kept : other.endedBy events = false := by
        rw [Bool.eq_false_iff, ne_eq, sole]
        exact fun same => here (place.symm.trans (Peer.id_eq_of_key same))
      rw [if_neg here, Option.filter_some_pos]
      simp [kept]

end Sole

end Keyed

end Directory

namespace Relay

variable (relay : Relay) (order : VisitOrder)

/-- What one event does: it ends nobody and is not counted, or it ends one connected
peer. -/
theorem applyEvent_cases (keyed : relay.directory.Keyed) (event : PeerEvent) :
    ((∀ peer, relay.directory.find? peer.id = some peer → event.ends peer.key = false) ∧
      (relay.applyEvent order event).directory = relay.directory ∧
      (relay.applyEvent order event).metrics = relay.metrics ∧ relay.eventMail order event = []) ∨
    ∃ peer reason, relay.directory.find? peer.id = some peer ∧
      event.killReason? = some reason ∧ event.key = peer.key ∧
      relay.applyEvent order event =
        ((relay.without peer.id).announce order peer reason).schedulePurge order peer.id ∧
      relay.eventMail order event =
        farewell order (relay.directory.without peer.id) peer reason := by
  cases ending : event.killReason? with
  | none =>
    refine Or.inl ⟨fun peer _ => ?_, ?_, ?_, ?_⟩
    · rw [PeerEvent.ends, ending, Option.isSome_none, Bool.false_and]
    · simp only [applyEvent, ending, schedulePurge]
    · simp only [applyEvent, ending, schedulePurge]
    · simp only [eventMail, ending]
  | some reason =>
    cases found : relay.directory.findSession? event.key with
    | none =>
      have missing := relay.directory.removeSession_eq_none_iff.mpr found
      refine Or.inl ⟨fun peer there => ?_, ?_, ?_, ?_⟩
      · rw [PeerEvent.ends, Bool.and_eq_false_iff, decide_eq_false_iff_not]
        right
        intro same
        rw [same, Directory.findSession?_key there] at found
        cases found
      · simp only [applyEvent, ending, missing]
      · simp only [applyEvent, ending, missing]
      · simp only [eventMail, ending, missing]
    | some peer =>
      have key : peer.key = event.key := keyed.key_of_findSession? found
      have own : event.key.id = peer.id := (congrArg SessionKey.id key).symm
      have there := (relay.directory.findSession?_eq_some_iff.mp found).1
      have removed : relay.directory.removeSession event.key =
          some (peer, relay.directory.without peer.id) :=
        relay.directory.removeSession_eq_some_iff.mpr ⟨found, by rw [own]⟩
      refine Or.inr ⟨peer, reason, by rw [← own, there], rfl, key.symm, ?_, ?_⟩
      · simp only [applyEvent, ending, removed, own, without]
      · simp only [eventMail, ending, removed]

/-- The gauge of peers is up to date. -/
def CountsPeers : Prop :=
  relay.metrics.peers = UInt64.ofNat relay.directory.size

/-- Announcing an end counts it, and the peers that are left. -/
theorem metrics_announce (peer : Peer) (reason : KillReason) :
    (relay.announce order peer reason).metrics =
      { relay.metrics with
        peers := UInt64.ofNat relay.directory.size
        disconnects := relay.metrics.disconnects + 1 } := by
  unfold announce
  dsimp only
  split
  · rfl
  · rfl

/-- How often a peer that stays is told of an avatar in the farewell of a peer that is taken
out: once if it is the avatar of that peer, and else never. -/
theorem countP_farewell {directory : Directory} (keyed : directory.Keyed) {holder : Peer}
    (stays : directory.find? holder.id = some holder)
    (agent : holder.role.carriesAvatar = true) (peer : Peer) (reason : KillReason)
    (avatar : PeerId) :
    (Parcel.packetsTo holder.id (farewell order directory peer reason)).countP (·.kills avatar) =
      [peer].countP fun peer => peer.hasAvatar && peer.id = avatar := by
  have listed : holder ∈ directory.agents order :=
    directory.mem_agents.mpr ⟨⟨_, stays⟩, agent⟩
  rw [farewell, ← Peer.hasAvatar]
  cases shown : peer.hasAvatar with
  | false => simp [shown]
  | true =>
    have told := Parcel.packetsTo_flatMap Peer.id
      (fun _ => [OutboundPacket.killAvatar peer.id reason]) (keyed.nodup_agent_ids order) listed
    have same : ((directory.agents order).flatMap fun other =>
        Parcel.addressed other.id [.killAvatar peer.id reason]) =
        (directory.agents order).map fun other => ⟨other.id, .killAvatar peer.id reason⟩ :=
      List.map_eq_flatMap.symm
    rw [if_pos rfl, ← same, told]
    simp [shown, OutboundPacket.kills]

/-- What some events do to the sessions: exactly those that they name are ended and counted,
and every agent that stays is told once of each that had an avatar. -/
structure Ends (before : Relay) (events : List PeerEvent) (mail : List Parcel)
    (after : Relay) : Prop where
  stays : ∀ id, after.directory.find? id =
    (before.directory.find? id).filter (!·.endedBy events)
  disconnects : after.metrics.disconnects =
    before.metrics.disconnects + UInt64.ofNat (before.directory.leavers events).length
  peers : before.CountsPeers → after.CountsPeers
  told : ∀ {holder : Peer} (avatar : PeerId),
    after.directory.find? holder.id = some holder → holder.role.carriesAvatar = true →
      (Parcel.packetsTo holder.id mail).countP (·.kills avatar) =
        (before.directory.leavers events).countP fun peer => peer.hasAvatar && peer.id = avatar

namespace Ends

variable {before middle after : Relay} {first second : List PeerEvent}
  {mail more : List Parcel}

theorem refl (relay : Relay) : relay.Ends [] [] relay where
  stays id := by cases relay.directory.find? id <;> rfl
  disconnects := by simp
  peers counted := counted
  told avatar _ _ := by simp

/-- What two groups of events do, one after the other. -/
theorem trans (keyed : before.directory.Keyed) (one : before.Ends first mail middle)
    (two : middle.Ends second more after) :
    before.Ends (first ++ second) (mail ++ more) after where
  stays id := by
    rw [two.stays, one.stays, Option.filter_filter]
    simp only [Peer.endedBy_append, Bool.not_or]
  disconnects := by
    rw [two.disconnects, one.disconnects, (keyed.leavers_append one.stays).length_eq,
      List.length_append, UInt64.ofNat_add, UInt64.add_assoc]
  peers counted := two.peers (one.peers counted)
  told {holder} avatar still agent := by
    have between := two.stays holder.id
    rw [still, eq_comm] at between
    rw [Parcel.packetsTo_append, List.countP_append, two.told avatar still agent,
      one.told avatar (Option.eq_some_of_filter_eq_some between) agent,
      (keyed.leavers_append one.stays).countP_eq, List.countP_append]

end Ends

/-- An event that ends nobody changes nothing. -/
theorem ends_of_nobody {after : Relay} (keyed : relay.directory.Keyed) {event : PeerEvent}
    (nobody : ∀ peer, relay.directory.find? peer.id = some peer → event.ends peer.key = false)
    (directory : after.directory = relay.directory) (metrics : after.metrics = relay.metrics) :
    relay.Ends [event] [] after := by
  have none : relay.directory.leavers [event] = [] := by
    rw [Directory.leavers, List.filter_eq_nil_iff]
    intro peer listed
    rw [Peer.endedBy_singleton, nobody peer (keyed.mem_toList_iff.mp listed)]
    exact Bool.false_ne_true
  constructor
  case stays =>
    intro id
    rw [directory]
    cases found : relay.directory.find? id with
    | none => rfl
    | some peer =>
      have kept := nobody peer (by rw [keyed found, found])
      rw [Option.filter_some_pos (by simp [Peer.endedBy_singleton, kept])]
  case disconnects => simp [metrics, none]
  case peers =>
    intro counted
    rw [CountsPeers, metrics, directory]
    exact counted
  case told =>
    intro holder avatar _ _
    rw [none]
    rfl

theorem ends_applyEvent (keyed : relay.directory.Keyed) (event : PeerEvent) :
    relay.Ends [event] (relay.eventMail order event) (relay.applyEvent order event) := by
  rcases relay.applyEvent_cases order keyed event with
    ⟨nobody, directory, metrics, mail⟩ | ⟨peer, reason, there, ending, own, applied, mail⟩
  · rw [mail]
    exact relay.ends_of_nobody keyed nobody directory metrics
  · have sole (other : Peer) : other.endedBy [event] = true ↔ other.key = peer.key := by
      rw [Peer.endedBy_singleton, PeerEvent.ends, ending, own, Option.isSome_some, Bool.true_and,
        decide_eq_true_iff, eq_comm]
    have one : relay.directory.leavers [event] = [peer] := keyed.leavers_of_sole there sole
    have stays := keyed.find?_without_of_sole there sole
    have directory :
        (relay.applyEvent order event).directory = relay.directory.without peer.id := by
      rw [applied, schedulePurge]
      exact ((relay.without peer.id).announce_spec order peer reason).1
    have metrics : (relay.applyEvent order event).metrics =
        { relay.metrics with
          peers := UInt64.ofNat (relay.directory.without peer.id).size
          disconnects := relay.metrics.disconnects + 1 } := by
      rw [applied, schedulePurge]
      exact (relay.without peer.id).metrics_announce order peer reason
    constructor
    case stays =>
      rw [directory]
      exact stays
    case disconnects => rw [metrics, one]; rfl
    case peers =>
      intro _
      rw [CountsPeers, metrics, directory]
    case told =>
      intro holder avatar still agent
      rw [directory] at still
      rw [mail, one]
      exact countP_farewell order (keyed.of_stays stays) still agent peer reason avatar

theorem ends_events (formed : relay.directory.WellFormed) (events : List PeerEvent) :
    relay.Ends events (relay.eventsMail order events) (events.foldl (applyEvent order) relay) := by
  induction events generalizing relay with
  | nil => exact Ends.refl relay
  | cons event rest ih =>
    have first := relay.ends_applyEvent order formed.keyed event
    have settles := relay.settles_applyEvent order formed.keyed event rest
    exact first.trans formed.keyed (ih _ (settles.wellFormed formed))

theorem staleUpdates_events (formed : relay.directory.WellFormed) (events : List PeerEvent) :
    (events.foldl (applyEvent order) relay).metrics.staleUpdates = relay.metrics.staleUpdates := by
  induction events generalizing relay with
  | nil => rfl
  | cons event rest ih =>
    have settles := relay.settles_applyEvent order formed.keyed event rest
    refine (ih _ (settles.wellFormed formed)).trans ?_
    rcases relay.applyEvent_cases order formed.keyed event with
      ⟨-, -, same, -⟩ | ⟨peer, reason, -, -, -, applied, -⟩
    · rw [same]
    · rw [applied, schedulePurge, metrics_announce]
      rfl

theorem ends_processEvents (formed : relay.directory.WellFormed) :
    relay.drained.Ends relay.events.pending (relay.departureMail order)
      (relay.processEvents order) :=
  relay.drained.ends_events order formed relay.events.pending

/-! ## Whole ticks and runs -/

section Tick

variable (busy : SessionKey → Bool) (began ended : Instant)

/-- After the events a tick leaves every metric alone that recording a pass, its time and the
throttle leaves alone, and publishing a report. -/
theorem metrics_tick {α : Type} (view : Metrics → α)
    (recording : ∀ (relay : Relay) (counters : Counters),
      view (relay.recordTick counters began ended).metrics = view relay.metrics)
    (publishing : ∀ (metrics : Metrics) (report : Report),
      view (metrics.publish report) = view metrics) :
    view (relay.tick order busy began ended).2.metrics =
      view ((relay.timed began).processEvents order).metrics := by
  have reporting (relay : Relay) :
      view (relay.reportWindow order busy ended).metrics = view relay.metrics := by
    unfold reportWindow
    split
    · exact publishing _ _
    · rfl
  let passed := (relay.beforePass order busy began).fanOut order busy began
  exact (reporting (passed.2.recordTick passed.1 began ended)).trans (recording passed.2 passed.1)

/-- Recording a tick counts neither peers, nor ends of sessions, nor updates. -/
theorem metrics_recordTick (counters : Counters) :
    (relay.recordTick counters began ended).metrics.peers = relay.metrics.peers ∧
      (relay.recordTick counters began ended).metrics.disconnects = relay.metrics.disconnects ∧
      (relay.recordTick counters began ended).metrics.staleUpdates =
        relay.metrics.staleUpdates := by
  unfold recordTick Metrics.setThrottle Metrics.recordTickTime
  dsimp only
  split <;> exact ⟨rfl, rfl, rfl⟩

theorem peers_tick :
    (relay.tick order busy began ended).2.metrics.peers =
      ((relay.timed began).processEvents order).metrics.peers :=
  relay.metrics_tick order busy began ended (·.peers)
    (fun relay counters => (relay.metrics_recordTick began ended counters).1) fun _ _ => rfl

theorem disconnects_tick :
    (relay.tick order busy began ended).2.metrics.disconnects =
      ((relay.timed began).processEvents order).metrics.disconnects :=
  relay.metrics_tick order busy began ended (·.disconnects)
    (fun relay counters => (relay.metrics_recordTick began ended counters).2.1) fun _ _ => rfl

/-- A tick drops no update. -/
theorem staleUpdates_tick (formed : relay.directory.WellFormed) :
    (relay.tick order busy began ended).2.metrics.staleUpdates = relay.metrics.staleUpdates :=
  (relay.metrics_tick order busy began ended (·.staleUpdates)
    (fun relay counters => (relay.metrics_recordTick began ended counters).2.2)
    fun _ _ => rfl).trans ((relay.timed began).drained.staleUpdates_events order formed _)

/-- What a tick leaves of the directory, up to what it makes of each peer. -/
theorem keys_tick (formed : relay.directory.WellFormed) (id : PeerId) :
    ((relay.tick order busy began ended).2.directory.find? id).map Peer.key =
      ((relay.directory.find? id).filter (!·.endedBy relay.events.pending)).map Peer.key := by
  obtain ⟨change, maps, changes⟩ := relay.find?_tick_settled order busy began ended formed
  have stays := ((relay.timed began).ends_processEvents order formed).stays id
  have same : Peer.key ∘ change = Peer.key := funext fun peer => (changes peer).1
  rw [maps, stays, Option.map_map, same]
  rfl

theorem size_tick (formed : relay.directory.WellFormed) :
    (relay.tick order busy began ended).2.directory.size =
      ((relay.timed began).processEvents order).directory.size := by
  obtain ⟨change, maps, -⟩ := relay.find?_tick_settled order busy began ended formed
  have settled := (relay.settles_timed order began formed).wellFormed formed
  apply settled.keyed.size_eq (relay.wellFormed_tick order busy began ended formed).keyed
  intro id
  rw [maps, Option.isSome_map]

end Tick

/-- Every operation keeps the gauge of peers up to date. -/
theorem CountsPeers.apply {relay : Relay} (counts : relay.CountsPeers)
    (formed : relay.directory.WellFormed) (operation : Operation) :
    (relay.apply operation).CountsPeers := by
  cases operation with
  | connect id role =>
    simp only [CountsPeers, Relay.apply, connect]
    cases relay.directory.find? id <;> rfl
  | receive sender bytes now =>
    have peers : (relay.receive sender bytes now).2.metrics.peers = relay.metrics.peers :=
      congrArg (·.metrics.peers) (relay.receive_spec sender bytes now).2
    have size : (relay.receive sender bytes now).2.directory.size = relay.directory.size := by
      apply formed.keyed.size_eq
        ((relay.steady_receive formed sender bytes now).wellFormed formed).keyed
      intro id
      rw [find?_receive formed, Option.isSome_map]
    rw [CountsPeers, Relay.apply, size, peers]
    exact counts
  | disconnect key => exact counts
  | rewire transport => exact counts
  | tick order busy began ended =>
    rw [CountsPeers, Relay.apply, relay.peers_tick, relay.size_tick order busy began ended formed]
    exact ((relay.timed began).ends_processEvents order formed).peers counts

/-- In every state that can be reached the gauge of peers is up to date. -/
theorem countsPeers_run (config : Config) (fanout : Fanout) (operations : List Operation) :
    ((opened config fanout).run operations).CountsPeers := by
  induction operations using List.reverseRecOn with
  | nil => rfl
  | append_singleton earlier operation ih =>
    have formed := ((Traced.opened config fanout).run earlier).formed
    rw [run, List.foldl_append]
    exact ih.apply formed operation

def reporting (events : List PeerEvent) : Relay :=
  { relay with events := { relay.events with pending := events } }

/-- A peer is an agent that can be reached, and none of the reported events ends its
session. -/
def remains (id : PeerId) : Bool :=
  (relay.directory.find? id).any fun peer =>
    peer.reachable relay.transport && !peer.endedBy relay.events.pending

/-- What taking up the reported events sends to a peer, at a given instant. -/
def toldOf (began : Instant) (id : PeerId) : List OutboundPacket :=
  Parcel.packetsTo id ((relay.timed began).departureMail order)

/-- Every agent that remains is told once of each avatar that leaves, and of no other. -/
theorem countP_toldOf (formed : relay.directory.WellFormed) (began : Instant) {id : PeerId}
    (remaining : relay.remains id = true) (avatar : PeerId) :
    (relay.toldOf order began id).countP (·.kills avatar) =
      if (relay.directory.leavers relay.events.pending).any
        fun peer => peer.hasAvatar && peer.id = avatar then 1 else 0 := by
  have ends := (relay.timed began).ends_processEvents order formed
  obtain ⟨holder, there, still⟩ := Option.any_eq_true _ _ |>.mp remaining
  obtain ⟨reached, unended⟩ := (Bool.and_eq_true _ _).mp still
  have own : holder.id = id := formed.keyed there
  subst own
  have stays : ((relay.timed began).processEvents order).directory.find? holder.id = some holder :=
    (ends.stays holder.id).trans (Option.filter_eq_some_iff.mpr ⟨there, unended⟩)
  refine (ends.told avatar stays ((Bool.and_eq_true _ _).mp reached).1).trans ?_
  change (relay.directory.leavers relay.events.pending).countP _ = _
  -- Those who leave have different identifiers, so at most one of them is the avatar.
  have distinct : ((relay.directory.leavers relay.events.pending).map Peer.id).Nodup :=
    formed.keyed.nodup_ids.sublist (List.filter_sublist.map Peer.id)
  have once := List.nodup_iff_count_le_one.mp distinct avatar
  rw [List.count, List.countP_map] at once
  have fewer : (relay.directory.leavers relay.events.pending).countP
      (fun peer => peer.hasAvatar && peer.id = avatar) ≤ 1 := by
    refine Nat.le_trans (List.countP_mono_left fun peer _ matching => ?_) once
    simpa using ((Bool.and_eq_true _ _).mp matching).2
  split
  · next leaves =>
    exact Nat.le_antisymm fewer (List.countP_pos_iff.mpr (List.any_eq_true.mp leaves))
  · next nobody =>
    rw [List.any_eq_true] at nobody
    exact List.countP_eq_zero.mpr fun peer leaving matching => nobody ⟨peer, leaving, matching⟩

/-- Endings are precise and do not depend on the order of events. Take any state that can be
reached, and any events reported in it: repeated, about sessions that are gone or replaced,
or about identifiers that nobody has. The tick that takes them up ends the connected
sessions that they name as ended and no others, and counts them. Every agent that remains is
sent, when the events are taken up, nothing but one farewell for each avatar that leaves; the
pass that follows sends it no farewell. With the same events in another order the same
sessions end, and the same avatars are named to those who remain. -/
theorem endings_of_tick (config : Config) (fanout : Fanout) (operations : List Operation)
    (events others : List PeerEvent) (same : events.Perm others) (order : VisitOrder)
    (busy : SessionKey → Bool) (began ended : Instant) :
    let start := (opened config fanout).run operations
    let relay := start.reporting events
    let settled := (relay.timed began).processEvents order
    let after := (relay.tick order busy began ended).2
    let leavers := start.directory.leavers events
    let other := start.reporting others
    (∀ id, (after.directory.find? id).map Peer.key =
      ((start.directory.find? id).filter (!·.endedBy events)).map Peer.key) ∧
    after.metrics.disconnects = start.metrics.disconnects + UInt64.ofNat leavers.length ∧
    start.directory.size = after.directory.size + leavers.length ∧
    after.metrics.peers = UInt64.ofNat after.directory.size ∧
    (∀ id, relay.remains id = true →
      settled.transport.link id =
        (start.transport.link id).record start.transport.historyLimit
          (relay.toldOf order began id) ∧
      (∀ packet ∈ relay.toldOf order began id,
        ∃ avatar reason, packet = .killAvatar avatar reason) ∧
      (∀ avatar, (relay.toldOf order began id).countP (·.kills avatar) =
        if leavers.any fun peer => peer.hasAvatar && peer.id = avatar then 1 else 0) ∧
      ∃ rest, after.transport.link id =
          (settled.transport.link id).record start.transport.historyLimit rest ∧
        ∀ packet ∈ rest, ∀ avatar, packet.kills avatar = false) ∧
    (∀ id, ((other.tick order busy began ended).2.directory.find? id).map Peer.key =
      (after.directory.find? id).map Peer.key) ∧
    ∀ id, relay.remains id = true → ∀ avatar,
      (other.toldOf order began id).countP (·.kills avatar) =
        (relay.toldOf order began id).countP (·.kills avatar) := by
  intro start relay settled after leavers other
  have formed : start.directory.WellFormed := ((Traced.opened config fanout).run operations).formed
  have ends := (relay.timed began).ends_processEvents order formed
  have settles := relay.settles_timed order began formed
  have size : after.directory.size = settled.directory.size :=
    relay.size_tick order busy began ended formed
  have counts : relay.CountsPeers := countsPeers_run config fanout operations
  refine ⟨?keys, ?disconnects, ?size, ?peers, ?told, ?otherKeys, ?otherTold⟩
  case keys => exact relay.keys_tick order busy began ended formed
  case disconnects => exact (relay.disconnects_tick order busy began ended).trans ends.disconnects
  case size =>
    rw [size]
    exact formed.keyed.size_of_stays ends.stays
  case peers =>
    rw [size]
    exact (relay.peers_tick order busy began ended).trans (ends.peers counts)
  case told =>
    intro id remaining
    obtain ⟨holder, there, still⟩ := (Option.any_eq_true _ _).mp remaining
    obtain ⟨reached, -⟩ := (Bool.and_eq_true _ _).mp still
    have own : holder.id = id := formed.keyed there
    have active : start.transport.hasActiveAddress id = true :=
      own ▸ ((Bool.and_eq_true _ _).mp reached).2
    have farewells : settled.transport.link id =
        (start.transport.link id).record start.transport.historyLimit
          (relay.toldOf order began id) := by
      rw [show settled.transport = _ from settles.delivered, Loopback.link_deliverAll]
      exact if_pos active
    refine ⟨farewells, fun packet sent => ?_, relay.countP_toldOf order formed began remaining,
      Parcel.packetsTo id (relay.nextPass order busy began).mail, ?_, fun packet sent avatar => ?_⟩
    · exact settles.kills _ (Parcel.mem_packetsTo.mp sent)
    · rw [farewells, ← Link.record_append, toldOf, ← Parcel.packetsTo_append,
        show after.transport = _ from (relay.tick_keeps order busy began ended formed).1,
        Loopback.link_deliverAll]
      exact if_pos active
    · exact kills_pass (Parcel.mem_packetsTo.mp sent) avatar
  case otherKeys =>
    intro id
    refine (other.keys_tick order busy began ended formed id).trans ?_
    refine Eq.trans ?_ (relay.keys_tick order busy began ended formed id).symm
    change ((start.directory.find? id).filter (!·.endedBy others)).map Peer.key =
      ((start.directory.find? id).filter (!·.endedBy events)).map Peer.key
    rw [Peer.endedBy_perm same]
  case otherTold =>
    intro id remaining avatar
    have remainsToo : other.remains id = true := by
      rw [← remaining]
      simp only [remains, other, relay, reporting, Peer.endedBy_perm same]
    rw [countP_toldOf other order formed began remainsToo,
      relay.countP_toldOf order formed began remaining]
    change (if (start.directory.leavers others).any _ then 1 else 0) =
      if (start.directory.leavers events).any _ then 1 else 0
    rw [start.directory.leavers_perm same]

/-- The end of the second of two agents is reported twice, in two ways, and that of a session
that the first one never had: the second is removed once, and the first is told once. -/
theorem endings_among_two :
    let start := (opened Config.standard (Fanout.ofSeed Config.standard.fanoutSettings 0)).run
      introduction
    let events := [.killRequested ⟨secondAgent, 2⟩, .disconnected ⟨firstAgent, 7⟩,
      .disconnected ⟨secondAgent, 2⟩]
    let after := ((start.reporting events).tick .ascending (fun _ => false) 0 0).2
    ((after.directory.find? firstAgent).map Peer.key = some ⟨firstAgent, 1⟩ ∧
      (after.directory.find? secondAgent).map Peer.key = none) ∧
    (after.metrics.disconnects = start.metrics.disconnects + 1 ∧ after.metrics.peers = 1) ∧
    ((start.reporting events.reverse).toldOf .ascending 0 firstAgent).countP
      (·.kills secondAgent) = 1 := by
  intro start events after
  obtain ⟨keys, disconnects, size, peers, told, -, otherTold⟩ := endings_of_tick Config.standard
    (Fanout.ofSeed Config.standard.fanoutSettings 0) introduction events events.reverse
    (List.reverse_perm events).symm .ascending (fun _ => false) 0 0
  have leaving : (start.directory.leavers events).length = 1 := by decide +kernel
  have before : start.directory.size = 2 := by decide +kernel
  have remaining : (start.reporting events).remains firstAgent = true := by decide +kernel
  refine ⟨⟨?_, ?_⟩, ⟨?_, ?_⟩, ?_⟩
  · rw [keys]
    decide +kernel
  · rw [keys]
    decide +kernel
  · rw [disconnects, leaving]
    rfl
  · have left : after.directory.size = 1 := by
      rw [before, leaving] at size
      exact (Nat.succ.inj size).symm
    rw [peers, left]
    rfl
  · rw [otherTold firstAgent remaining, (told firstAgent remaining).2.2.1]
    decide +kernel

end Relay

end AvatarRelay
