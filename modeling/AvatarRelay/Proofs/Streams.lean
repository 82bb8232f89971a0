/-
# Streams of packets

Packets of different peers commute. What comes of a packet depends on its own sender alone,
and so does what it makes of that sender: among the packets of others, each peer is answered
and changed as if only its own packets had arrived. What is shared by all, the metrics and
the queue of events, takes the same contributions in any order.
-/

import AvatarRelay.Proofs.Endings

namespace AvatarRelay

/-- Lists that agree on the items of every key are permutations of each other. -/
theorem perm_of_filter_eq {Item Key : Type} [DecidableEq Key] (key : Item → Key)
    {first second : List Item}
    (same : ∀ some, first.filter (key · = some) = second.filter (key · = some)) :
    first.Perm second := by
  classical
  rw [List.perm_iff_count]
  intro item
  have own : decide (key item = key item) = true := decide_eq_true rfl
  rw [← List.count_filter (p := fun other => key other = key item) own, same,
    List.count_filter (p := fun other => key other = key item) own]

structure Inbound where
  sender : PeerId
  bytes : Bytes
  now : Instant

namespace Inbound

def operation (packet : Inbound) : Relay.Operation :=
  .receive packet.sender packet.bytes packet.now

end Inbound

namespace Relay

def takeIn (relay : Relay) (packets : List Inbound) : Relay :=
  relay.run (packets.map Inbound.operation)

def answers (relay : Relay) : List Inbound → List (Inbound × Except ReceiveError Unit)
  | [] => []
  | packet :: rest =>
    (packet, (relay.receive packet.sender packet.bytes packet.now).1) ::
      (relay.apply packet.operation).answers rest

def trace (relay : Relay) : List Inbound → List (Inbound × Receipt)
  | [] => []
  | packet :: rest =>
    (packet, relay.receipt packet.sender packet.bytes packet.now) ::
      (relay.apply packet.operation).trace rest

section Packet

variable (relay : Relay)

/-- A packet changes nothing but the directory, the metrics and the queue. -/
theorem apply_operation (packet : Inbound) :
    let receipt := relay.receipt packet.sender packet.bytes packet.now
    relay.apply packet.operation =
      { relay with
        directory := (relay.apply packet.operation).directory
        metrics := relay.metrics.charge packet.bytes.length receipt
        events := { relay.events with pending := relay.events.pending ++ receipt.events } } :=
  (relay.receive_spec packet.sender packet.bytes packet.now).2

theorem config_apply (packet : Inbound) :
    (relay.apply packet.operation).config = relay.config := by
  have config := congrArg Relay.config (relay.apply_operation packet)
  exact config

end Packet

variable {relay : Relay}

theorem find?_apply_of_ne (formed : relay.directory.WellFormed) {packet : Inbound} {id : PeerId}
    (other : packet.sender ≠ id) :
    (relay.apply packet.operation).directory.find? id = relay.directory.find? id :=
  find?_receive_of_ne formed (Ne.symm other) packet.bytes packet.now

/-- What a packet makes of its sender depends on the sender alone. -/
theorem find?_apply_congr {others : Relay} (formed : relay.directory.WellFormed)
    (formedToo : others.directory.WellFormed) (config : others.config = relay.config)
    {id : PeerId} (same : others.directory.find? id = relay.directory.find? id)
    (packet : Inbound) :
    (others.apply packet.operation).directory.find? id =
      (relay.apply packet.operation).directory.find? id := by
  refine (find?_receive formedToo packet.sender packet.bytes packet.now id).trans ?_
  refine Eq.trans ?_ (find?_receive formed packet.sender packet.bytes packet.now id).symm
  have heard : others.heard packet.sender packet.bytes packet.now =
      relay.heard packet.sender packet.bytes packet.now := by
    funext peer
    rw [Relay.heard, config, Relay.heard]
  rw [same, heard]

theorem receipt_congr {others : Relay} (config : others.config = relay.config)
    {packet : Inbound} (same : others.directory.find? packet.sender =
      relay.directory.find? packet.sender) :
    others.receipt packet.sender packet.bytes packet.now =
      relay.receipt packet.sender packet.bytes packet.now := by
  rw [receipt, same, config, receipt]

theorem wellFormed_takeIn (formed : relay.directory.WellFormed) (packets : List Inbound) :
    (relay.takeIn packets).directory.WellFormed := by
  induction packets generalizing relay with
  | nil => exact formed
  | cons packet rest ih => exact ih (wellFormed_apply formed packet.operation)

/-- What comes of the packets of one peer among those of others is what comes of them
alone. -/
theorem filter_trace {alone : Relay} (formed : relay.directory.WellFormed)
    (formedToo : alone.directory.WellFormed) (config : alone.config = relay.config)
    {sender : PeerId} (same : alone.directory.find? sender = relay.directory.find? sender)
    (packets : List Inbound) :
    (relay.trace packets).filter (·.1.sender = sender) =
      alone.trace (packets.filter (·.sender = sender)) := by
  induction packets generalizing relay alone with
  | nil => rfl
  | cons packet rest ih =>
    have formedNext := wellFormed_apply formed packet.operation
    by_cases own : packet.sender = sender
    · have taken := find?_apply_congr formed formedToo config same packet
      subst own
      rw [trace, List.filter_cons_of_pos (by simp), List.filter_cons_of_pos (by simp), trace,
        receipt_congr config same,
        ih formedNext (wellFormed_apply formedToo packet.operation)
          (by rw [config_apply, config_apply, config]) taken]
    · rw [trace, List.filter_cons_of_neg (by simpa using own),
        List.filter_cons_of_neg (by simpa using own)]
      exact ih formedNext formedToo (by rw [config_apply, config])
        (by rw [find?_apply_of_ne formed own, same])

/-- What the packets of all make of one peer is what its own packets make of it alone. -/
theorem find?_takeIn {alone : Relay} (formed : relay.directory.WellFormed)
    (formedToo : alone.directory.WellFormed) (config : alone.config = relay.config)
    {id : PeerId} (same : alone.directory.find? id = relay.directory.find? id)
    (packets : List Inbound) :
    (relay.takeIn packets).directory.find? id =
      (alone.takeIn (packets.filter (·.sender = id))).directory.find? id := by
  induction packets generalizing relay alone with
  | nil => exact same.symm
  | cons packet rest ih =>
    have formedNext := wellFormed_apply formed packet.operation
    by_cases own : packet.sender = id
    · rw [List.filter_cons_of_pos (by simpa using own)]
      exact ih formedNext (wellFormed_apply formedToo packet.operation)
        (by rw [config_apply, config_apply, config])
        (find?_apply_congr formed formedToo config same packet)
    · rw [List.filter_cons_of_neg (by simpa using own)]
      exact ih formedNext formedToo (by rw [config_apply, config])
        (by rw [find?_apply_of_ne formed own, same])

theorem lastSession_takeIn (formed : relay.directory.WellFormed) (packets : List Inbound) :
    (relay.takeIn packets).directory.lastSession = relay.directory.lastSession := by
  induction packets generalizing relay with
  | nil => rfl
  | cons packet rest ih =>
    refine (ih (wellFormed_apply formed packet.operation)).trans ?_
    exact (relay.steady_receive formed packet.sender packet.bytes packet.now).lastSession

theorem key_of_trace (formed : relay.directory.WellFormed) {packets : List Inbound}
    {entry : Inbound × Receipt} (traced : entry ∈ relay.trace packets) {event : PeerEvent}
    (reported : event ∈ entry.2.events) : event.key.id = entry.1.sender := by
  induction packets generalizing relay with
  | nil => cases traced
  | cons packet rest ih =>
    rcases List.mem_cons.mp traced with rfl | later
    · exact relay.key_of_receipt formed reported
    · exact ih (wellFormed_apply formed packet.operation) later

theorem answers_eq_map_trace (relay : Relay) (packets : List Inbound) :
    relay.answers packets = (relay.trace packets).map fun entry => (entry.1, entry.2.answer) := by
  induction packets generalizing relay with
  | nil => rfl
  | cons packet rest ih =>
    rw [answers, trace, List.map_cons, ih,
      (relay.receive_spec packet.sender packet.bytes packet.now).1]

/-- What several packets do besides what they make of their senders. -/
theorem takeIn_spec (relay : Relay) (packets : List Inbound) :
    relay.takeIn packets =
      { relay with
        directory := (relay.takeIn packets).directory
        metrics := (relay.trace packets).foldl
          (fun metrics entry => metrics.charge entry.1.bytes.length entry.2) relay.metrics
        events := { relay.events with
          pending := relay.events.pending ++ (relay.trace packets).flatMap (·.2.events) } } := by
  induction packets generalizing relay with
  | nil => simp [takeIn, run, trace]
  | cons packet rest ih =>
    have step := relay.apply_operation packet
    have metrics := congrArg Relay.metrics step
    have events := congrArg Relay.events step
    have rest_same (directory : Directory) (metrics : Metrics) (events : EventQueue) :
        { relay.apply packet.operation with
          directory := directory, metrics := metrics, events := events } =
        { relay with directory := directory, metrics := metrics, events := events } := by
      rw [step]
    refine (ih (relay.apply packet.operation)).trans ?_
    rw [rest_same, trace, List.foldl_cons, List.flatMap_cons, ← List.append_assoc, metrics,
      events]
    rfl

/-- What some packets report about one peer is what came of its own packets. -/
theorem filter_reported (formed : relay.directory.WellFormed) (packets : List Inbound)
    (id : PeerId) :
    ((relay.trace packets).flatMap (·.2.events)).filter (·.key.id = id) =
      ((relay.trace packets).filter (·.1.sender = id)).flatMap (·.2.events) := by
  have about : ∀ entry ∈ relay.trace packets, ∀ event ∈ entry.2.events,
      event.key.id = entry.1.sender := fun _ traced _ => key_of_trace formed traced
  generalize relay.trace packets = entries at about
  induction entries with
  | nil => rfl
  | cons entry rest ih =>
    have later := ih fun other listed => about other (List.mem_cons_of_mem _ listed)
    have here := about entry List.mem_cons_self
    rw [List.flatMap_cons, List.filter_append, later, List.filter_cons]
    by_cases own : entry.1.sender = id
    · have all : entry.2.events.filter (·.key.id = id) = entry.2.events :=
        List.filter_eq_self.mpr fun event listed => by simp [here event listed, own]
      simp [all, own]
    · have none : entry.2.events.filter (·.key.id = id) = [] :=
        List.filter_eq_nil_iff.mpr fun event listed => by simp [here event listed, own]
      simp [none, own]

theorem takeIn_keeps (relay : Relay) (packets : List Inbound) :
    relay.takeIn packets =
      { relay with
        directory := (relay.takeIn packets).directory
        metrics := (relay.takeIn packets).metrics
        events := (relay.takeIn packets).events } := by
  rw [relay.takeIn_spec packets]

/-- Packets of different peers commute. Take any state that can be reached, and two orders
in which the same packets arrive, with the packets of each peer in the same order. Each
packet is answered alike in both, and the relay ends in the same state: the same directory,
the same metrics and everything else, up to the order in which events of different peers
stand in the queue. So the tick that follows ends the same sessions. -/
theorem streams_commute (config : Config) (fanout : Fanout) (operations : List Operation)
    (first second : List Inbound)
    (same : ∀ sender, first.filter (·.sender = sender) = second.filter (·.sender = sender))
    (order : VisitOrder) (busy : SessionKey → Bool) (began ended : Instant) :
    let start := (opened config fanout).run operations
    let one := start.takeIn first
    let other := start.takeIn second
    (∀ sender, (start.answers first).filter (·.1.sender = sender) =
      (start.answers second).filter (·.1.sender = sender)) ∧
    one = { other with events := one.events } ∧
    one.events.closed = other.events.closed ∧
    one.events.pending.Perm other.events.pending ∧
    (∀ id, one.events.pending.filter (·.key.id = id) =
      other.events.pending.filter (·.key.id = id)) ∧
    ∀ id, ((one.tick order busy began ended).2.directory.find? id).map Peer.key =
      ((other.tick order busy began ended).2.directory.find? id).map Peer.key := by
  intro start one other
  have formed : start.directory.WellFormed := ((Traced.opened config fanout).run operations).formed
  -- What comes of the packets of one peer is the same in both orders.
  have traced (sender : PeerId) : (start.trace first).filter (·.1.sender = sender) =
      (start.trace second).filter (·.1.sender = sender) := by
    rw [filter_trace formed formed rfl rfl, same, filter_trace formed formed rfl rfl]
  have shuffled : (start.trace first).Perm (start.trace second) :=
    perm_of_filter_eq (·.1.sender) traced
  have directory : one.directory = other.directory := by
    apply Directory.ext_find?
    · exact (lastSession_takeIn formed first).trans (lastSession_takeIn formed second).symm
    · intro id
      refine (find?_takeIn formed formed rfl rfl first).trans ?_
      rw [same]
      exact (find?_takeIn formed formed rfl rfl second).symm
  have metrics : one.metrics = other.metrics := by
    rw [show one.metrics = _ from congrArg Relay.metrics (start.takeIn_spec first),
      show other.metrics = _ from congrArg Relay.metrics (start.takeIn_spec second)]
    exact shuffled.foldl_eq' (fun _ _ _ _ metrics => metrics.charge_comm _ _ _ _) _
  have queued (packets : List Inbound) : (start.takeIn packets).events =
      { start.events with
        pending := start.events.pending ++ (start.trace packets).flatMap (·.2.events) } :=
    congrArg Relay.events (start.takeIn_spec packets)
  have pending : one.events.pending.Perm other.events.pending := by
    rw [show one.events = _ from queued first, show other.events = _ from queued second]
    exact (shuffled.flatMap_right _).append_left _
  refine ⟨?answers, ?state, ?closed, pending, ?events, ?tick⟩
  case answers =>
    intro sender
    have answered (packets : List Inbound) :
        (start.answers packets).filter (·.1.sender = sender) =
          ((start.trace packets).filter (·.1.sender = sender)).map
            fun entry => (entry.1, entry.2.answer) := by
      rw [answers_eq_map_trace, List.filter_map]
      rfl
    rw [answered, answered, traced]
  case state =>
    have kept : one = { start with
        directory := one.directory, metrics := one.metrics, events := one.events } :=
      start.takeIn_keeps first
    have keptToo : other = { start with
        directory := other.directory, metrics := other.metrics, events := other.events } :=
      start.takeIn_keeps second
    rw [directory, metrics] at kept
    refine kept.trans ?_
    rw [keptToo]
  case closed =>
    rw [show one.events = _ from queued first, show other.events = _ from queued second]
  case events =>
    intro id
    rw [show one.events = _ from queued first, show other.events = _ from queued second,
      List.filter_append, List.filter_append, filter_reported formed, filter_reported formed,
      traced]
  case tick =>
    intro id
    have formedOne : one.directory.WellFormed := wellFormed_takeIn formed first
    have formedOther : other.directory.WellFormed := wellFormed_takeIn formed second
    rw [one.keys_tick order busy began ended formedOne,
      other.keys_tick order busy began ended formedOther, directory, Peer.endedBy_perm pending]

/-- One agent turns its bubble on and asks to leave while another asks to leave as well, before,
between or after: both leave with the next tick. -/
theorem streams_of_two :
    let start := (opened Config.standard (Fanout.ofSeed Config.standard.fanoutSettings 0)).run
      introduction
    let bubble : Inbound :=
      ⟨firstAgent, InboundPacket.format.write (.radiusIgnore true), 1⟩
    let leaves (agent : PeerId) : Inbound :=
      ⟨agent, InboundPacket.format.write .killAvatar, 1⟩
    let one := start.takeIn [bubble, leaves secondAgent, leaves firstAgent]
    let other := start.takeIn [leaves secondAgent, bubble, leaves firstAgent]
    one = { other with events := one.events } ∧
      ((one.tick .ascending (fun _ => false) 2 2).2.directory.find? firstAgent).map Peer.key =
        ((other.tick .ascending (fun _ => false) 2 2).2.directory.find? firstAgent).map Peer.key ∧
      ((other.tick .ascending (fun _ => false) 2 2).2.directory.find? firstAgent).map Peer.key =
        none := by
  intro start bubble leaves one other
  have different : firstAgent ≠ secondAgent := by decide +kernel
  have same (sender : PeerId) :
      [bubble, leaves secondAgent, leaves firstAgent].filter (·.sender = sender) =
        [leaves secondAgent, bubble, leaves firstAgent].filter (·.sender = sender) := by
    by_cases own : secondAgent = sender
    · simp [bubble, leaves, ← own, different]
    · simp [bubble, leaves, own, List.filter_cons]
  obtain ⟨-, state, -, -, -, tick⟩ := streams_commute Config.standard
    (Fanout.ofSeed Config.standard.fanoutSettings 0) introduction _ _ same .ascending
    (fun _ => false) 2 2
  refine ⟨state, ?_, by decide +kernel⟩
  rw [tick]

end Relay

end AvatarRelay
