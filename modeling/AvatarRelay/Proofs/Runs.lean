/-
# Runs

A run is any sequence of operations on a relay: connections, packets, reports of ended
sessions, changes of the transport, and ticks during each of which some client data is
in use. A tick is taken apart into what comes before its pass, the pass, and the
figures that are read after it.
-/

import AvatarRelay.Proofs.Passes
import AvatarRelay.Proofs.Purges
import AvatarRelay.Relay.Ingestion
import AvatarRelay.Relay.Tick

namespace AvatarRelay

namespace Relay

inductive Operation
  /-- A peer connects, perhaps in place of a session that its identifier has. -/
  | connect (id : PeerId) (role : Role)
  /-- A packet arrives. -/
  | receive (sender : PeerId) (bytes : Bytes) (now : Instant)
  /-- The end of a session is reported. -/
  | disconnect (key : SessionKey)
  /-- Addresses come or go. -/
  | rewire (transport : Loopback)
  /-- A tick, in some order, while the client data of some sessions is in use. -/
  | tick (order : VisitOrder) (busy : SessionKey → Bool) (began ended : Instant)

def apply (relay : Relay) : Operation → Relay
  | .connect id role => (relay.connect id role).2
  | .receive sender bytes now => (relay.receive sender bytes now).2
  | .disconnect key => relay.disconnect key
  | .rewire transport => relay.withTransport transport
  | .tick order busy began ended => (relay.tick order busy began ended).2

def run (relay : Relay) (operations : List Operation) : Relay :=
  operations.foldl apply relay

section AtEvery

variable {holds : List Operation → Operation → Prop}

/-- Something holds of every operation of a run and those before it. -/
def AtEvery (holds : List Operation → Operation → Prop) (operations : List Operation) : Prop :=
  ∀ earlier operation later, operations = earlier ++ operation :: later → holds earlier operation

@[simp]
theorem atEvery_nil : AtEvery holds [] := by
  intro earlier operation later split
  cases earlier <;> cases split

@[simp]
theorem atEvery_cons {first : Operation} {rest : List Operation} :
    AtEvery holds (first :: rest) ↔
      holds [] first ∧ AtEvery (fun earlier => holds (first :: earlier)) rest := by
  constructor
  · intro every
    exact ⟨every [] first rest rfl, fun earlier operation later split =>
      every (first :: earlier) operation later (congrArg (first :: ·) split)⟩
  · rintro ⟨now, every⟩ earlier operation later split
    cases earlier with
    | nil =>
      cases split
      exact now
    | cons before earlier =>
      cases split
      exact every earlier operation later rfl

theorem atEvery_congr {others : List Operation → Operation → Prop} {operations : List Operation}
    (same : ∀ earlier operation later, operations = earlier ++ operation :: later →
      (holds earlier operation ↔ others earlier operation)) :
    AtEvery holds operations ↔ AtEvery others operations :=
  ⟨fun every earlier operation later split =>
      (same earlier operation later split).mp (every earlier operation later split),
    fun every earlier operation later split =>
      (same earlier operation later split).mpr (every earlier operation later split)⟩

end AtEvery

/-- A relay to which nobody has connected, whatever its passes start with. -/
def opened (config : Config) (fanout : Fanout) : Relay :=
  { new config 0 with fanout := fanout }

theorem find?_opened (config : Config) (fanout : Fanout) (id : PeerId) :
    (opened config fanout).directory.find? id = none :=
  Directory.find?_empty id

/-- The two agents of a small run. -/
def firstAgent : PeerId := PeerId.ofNat 1

@[inherit_doc firstAgent]
def secondAgent : PeerId := PeerId.ofNat 2

/-- Two agents connect that can be reached, and each sends an update. -/
def introduction : List Operation :=
  let update := InboundPacket.format.write (.avatarData 1 default)
  [.rewire (((Loopback.new 0).setAddress firstAgent true).setAddress secondAgent true),
    .connect firstAgent .agent, .connect secondAgent .agent,
    .receive firstAgent update 0, .receive secondAgent update 0]

section Tick

variable (relay : Relay) (order : VisitOrder) (busy : SessionKey → Bool) (began ended : Instant)

/-! ## The parts of a tick -/

def timed : Relay :=
  { relay with throttle := relay.throttle.tickStart began }

def beforePass : Relay :=
  ((relay.timed began).processEvents order).retryPurges busy

def nextPass : Pass :=
  let relay := relay.beforePass order busy began
  { fanout := relay.fanout
    order := (relay.directory.agents order).map Peer.id
    busy := fun id => (relay.directory.find? id).any (busy ·.key)
    now := began
    directory := relay.directory
    transport := relay.transport }

def tickMail : List Parcel :=
  (relay.timed began).departureMail order ++ (relay.nextPass order busy began).mail

end Tick

end Relay

namespace Peer

def figured (busy : SessionKey → Bool) (now : Instant) (peer : Peer) : Peer :=
  if peer.role.carriesAvatar && !busy peer.key then peer.mapClient (·.rollMeters now)
  else peer

theorem figured_keeps {α : Type} {now : Instant} (view : Peer → α)
    (rolled : ∀ peer : Peer, view (peer.mapClient (·.rollMeters now)) = view peer)
    (busy : SessionKey → Bool) (peer : Peer) : view (peer.figured busy now) = view peer := by
  unfold figured
  split
  · exact rolled peer
  · rfl

end Peer

namespace Pass

/-- What the tick of a pass may leave of a peer: what the pass made of it, up to meters. -/
structure Leaves (pass : Pass) (before after : Peer) : Prop where
  key : after.key = before.key
  role : after.role = before.role
  ignored : ∀ other, after.isIgnoring other = before.isIgnoring other
  present : after.client.isSome = before.client.isSome
  latest : after.latest = before.latest
  remembers : ∀ other, after.remembers other = (pass.passed before).remembers other
  lastForwarded : ∀ other, after.lastForwarded other = (pass.passed before).lastForwarded other

namespace Leaves

variable {pass : Pass} {before after : Peer}

theorem passed (pass : Pass) (peer : Peer) : pass.Leaves peer (pass.passed peer) where
  key := pass.key_passed peer
  role := pass.role_passed peer
  ignored := pass.isIgnoring_passed peer
  present := pass.isSome_client_passed peer
  latest := pass.latest_passed peer
  remembers _ := rfl
  lastForwarded _ := rfl

theorem figured (leaves : pass.Leaves before after) (busy : SessionKey → Bool) (now : Instant) :
    pass.Leaves before (after.figured busy now) := by
  unfold Peer.figured
  split
  · cases known : after.client with
    | none =>
      rw [Peer.mapClient_of_none known]
      exact leaves
    | some client =>
      refine ⟨leaves.key, leaves.role, leaves.ignored, ?_, ?_, fun other => ?_, fun other => ?_⟩
      · rw [← leaves.present]
        simp
      · rw [← leaves.latest]
        simp [Peer.latest, known, Client.rollMeters]
      · rw [← leaves.remembers]
        simp [Peer.remembers, known, Client.rollMeters, Receiver.rollMeter, Receiver.remembers]
      · rw [← leaves.lastForwarded]
        simp [Peer.lastForwarded, known, Client.rollMeters, Receiver.rollMeter]
  · exact leaves

end Leaves

end Pass

namespace Relay

def writeBack (busy : SessionKey → Bool) (now : Instant) (directory : Directory) (peer : Peer) :
    Directory :=
  match peer.client with
  | none => directory
  | some client =>
    if busy peer.key then directory
    else directory.modify peer.id (·.withClient (client.rollMeters now))

theorem readFigures_snd (order : VisitOrder) (busy : SessionKey → Bool) (now : Instant)
    (directory : Directory) :
    (readFigures order busy now directory).2 =
      (directory.agents order).foldl (writeBack busy now) directory := by
  symm
  unfold readFigures
  apply @List.foldl_hom (PeerMap AvatarFigures × Directory) Directory Peer Prod.snd _
    (writeBack busy now) (directory.agents order) (∅, directory)
  intro state peer
  unfold writeBack
  cases peer.client with
  | none => rfl
  | some client =>
    dsimp only
    split <;> rfl

theorem lastSession_readFigures (order : VisitOrder) (busy : SessionKey → Bool) (now : Instant)
    (directory : Directory) :
    (readFigures order busy now directory).2.lastSession = directory.lastSession := by
  rw [readFigures_snd]
  apply Directory.lastSession_foldl
  intro directory peer
  unfold writeBack
  split
  · rfl
  · split <;> rfl

def writtenBack (busy : SessionKey → Bool) (now : Instant) (read found : Peer) : Peer :=
  match read.client with
  | none => found
  | some client => if busy read.key then found else found.withClient (client.rollMeters now)

theorem find?_writeBack (busy : SessionKey → Bool) (now : Instant) (directory : Directory)
    (read : Peer) (id : PeerId) :
    (writeBack busy now directory read).find? id =
      if id = read.id then (directory.find? id).map (writtenBack busy now read)
      else directory.find? id := by
  unfold writeBack writtenBack
  cases read.client with
  | none => simp
  | some client =>
    dsimp only
    split
    · simp
    · rw [Directory.find?_modify]

theorem writtenBack_self (busy : SessionKey → Bool) (now : Instant) {peer : Peer}
    (agent : peer.role.carriesAvatar = true) :
    writtenBack busy now peer peer = peer.figured busy now := by
  rw [Peer.figured, agent, writtenBack]
  cases known : peer.client with
  | none =>
    simp [Peer.mapClient_of_none known]
  | some client =>
    cases busy peer.key with
    | true => simp
    | false => simp [Peer.withClient, Peer.mapClient, known]

/-- What reading the figures does to the directory. -/
theorem find?_readFigures (order : VisitOrder) (busy : SessionKey → Bool) (now : Instant)
    {directory : Directory} (keyed : directory.Keyed) (id : PeerId) :
    (readFigures order busy now directory).2.find? id =
      (directory.find? id).map (Peer.figured busy now) := by
  obtain ⟨within, without⟩ := Directory.find?_foldl _ Peer.id _ (find?_writeBack busy now)
    (keyed.nodup_agent_ids order) directory
  rw [readFigures_snd]
  by_cases listed : id ∈ (directory.agents order).map Peer.id
  · obtain ⟨peer, present, rfl⟩ := List.mem_map.mp listed
    obtain ⟨⟨id, there⟩, agent⟩ := directory.mem_agents.mp present
    rw [← keyed there] at there
    rw [within peer present, there, Option.map_some, Option.map_some,
      writtenBack_self busy now agent]
  · rw [without id listed]
    cases found : directory.find? id with
    | none => rfl
    | some peer =>
      have plain : peer.role.carriesAvatar = false := by
        rw [Bool.eq_false_iff]
        intro agent
        apply listed
        rw [← keyed found]
        exact List.mem_map_of_mem (directory.mem_agents.mpr ⟨⟨id, found⟩, agent⟩)
      rw [Option.map_some, Peer.figured, plain]
      rfl

section Tick

variable (relay : Relay) (order : VisitOrder) (busy : SessionKey → Bool) (began ended : Instant)

theorem settles_timed (formed : relay.directory.WellFormed) :
    (relay.timed began).drained.Settles relay.events.pending
      ((relay.timed began).departureMail order) ((relay.timed began).processEvents order) [] :=
  (relay.timed began).settles_processEvents order formed

/-- A peer that is connected when the pass begins, told from the one that was connected
when the events had been taken up. -/
theorem find?_beforePass (formed : relay.directory.WellFormed) (id : PeerId) :
    (relay.beforePass order busy began).directory.find? id =
      (((relay.timed began).processEvents order).directory.find? id).map fun peer =>
        peer.purgedOfAll (busy peer.key)
          (dues ((relay.timed began).processEvents order).purges peer.key) :=
  (retryPurges_spec busy _
    ((relay.settles_timed order began formed).wellFormed formed).keyed).2.maps id

theorem wellFormed_beforePass (formed : relay.directory.WellFormed) :
    (relay.beforePass order busy began).directory.WellFormed := by
  have settled := (relay.settles_timed order began formed).wellFormed formed
  exact (retryPurges_spec busy _ settled.keyed).2.wellFormed settled

theorem lastSession_beforePass (formed : relay.directory.WellFormed) :
    (relay.beforePass order busy began).directory.lastSession = relay.directory.lastSession := by
  have settles := relay.settles_timed order began formed
  obtain ⟨-, clears⟩ := retryPurges_spec busy _ (settles.wellFormed formed).keyed
  exact clears.lastSession.trans settles.lastSession

theorem proper_nextPass (formed : relay.directory.WellFormed) :
    (relay.nextPass order busy began).Proper where
  distinct := ((relay.wellFormed_beforePass order busy began formed).keyed.nodup_agent_ids order)
  keyed := (relay.wellFormed_beforePass order busy began formed).keyed

/-- A report touches nothing but the figures. -/
theorem reportWindow_spec (keyed : relay.directory.Keyed) :
    let after := relay.reportWindow order busy ended
    (after.transport = relay.transport ∧ after.purges = relay.purges ∧
      after.events = relay.events ∧ after.fanout = relay.fanout ∧
      after.directory.lastSession = relay.directory.lastSession) ∧
    ∃ reported : Bool, ∀ id, after.directory.find? id =
      (relay.directory.find? id).map fun peer =>
        if reported then peer.figured busy ended else peer := by
  unfold reportWindow
  split
  · refine ⟨⟨rfl, rfl, rfl, rfl, lastSession_readFigures order busy ended relay.directory⟩,
      true, fun id => ?_⟩
    exact find?_readFigures order busy ended keyed id
  · refine ⟨⟨rfl, rfl, rfl, rfl, rfl⟩, false, fun id => ?_⟩
    simp

/-- The relay when the counters of a tick were recorded. -/
def recorded : Relay :=
  let (counters, after) := (relay.beforePass order busy began).fanOut order busy began
  after.recordTick counters began ended

/-- What the pass of a tick leaves, and what it does not touch. -/
theorem recorded_spec :
    let after := relay.recorded order busy began ended
    after.directory = (relay.nextPass order busy began).result.1.directory ∧
      after.transport = (relay.nextPass order busy began).result.1.transport ∧
      after.purges = (relay.beforePass order busy began).purges ∧
      after.events = ((relay.timed began).processEvents order).events :=
  ⟨rfl, rfl, rfl, rfl⟩

theorem keyed_recorded (formed : relay.directory.WellFormed) :
    (relay.recorded order busy began ended).directory.Keyed := by
  rw [(relay.recorded_spec order busy began ended).1]
  have proper := relay.proper_nextPass order busy began formed
  exact proper.keyed.of_map proper.find?_result fun peer => Pass.key_passed _ peer

/-- What a tick leaves to the transport, the purges and the queue. -/
theorem tick_keeps (formed : relay.directory.WellFormed) :
    let after := (relay.tick order busy began ended).2
    after.transport = relay.transport.deliverAll (relay.tickMail order busy began) ∧
      after.purges = (relay.beforePass order busy began).purges ∧
      after.events.pending = [] ∧
      after.directory.lastSession = relay.directory.lastSession := by
  have settles := relay.settles_timed order began formed
  have proper := relay.proper_nextPass order busy began formed
  obtain ⟨passed, transport, purges, events⟩ := relay.recorded_spec order busy began ended
  obtain ⟨⟨sameTransport, samePurges, sameEvents, -, sameLast⟩, -⟩ :=
    (relay.recorded order busy began ended).reportWindow_spec order busy ended
      (relay.keyed_recorded order busy began ended formed)
  refine ⟨?_, samePurges.trans purges, ?_, ?_⟩
  · refine (sameTransport.trans transport).trans ?_
    rw [proper.transport_result, tickMail, Loopback.deliverAll_append]
    exact congrArg (Loopback.deliverAll · _) settles.delivered
  · have taken : ((relay.recorded order busy began ended).reportWindow order busy ended).events =
        (relay.timed began).drained.events := (sameEvents.trans events).trans settles.events
    exact congrArg EventQueue.pending taken
  · refine sameLast.trans ?_
    rw [passed, proper.lastSession_result]
    exact relay.lastSession_beforePass order busy began formed

/-- A tick leaves of each peer what its pass makes of it, with meters brought up to the end
of the tick if there was a report. -/
theorem find?_tick_passed (formed : relay.directory.WellFormed) :
    ∃ reported : Bool, ∀ id, (relay.tick order busy began ended).2.directory.find? id =
      ((relay.beforePass order busy began).directory.find? id).map fun peer =>
        if reported then ((relay.nextPass order busy began).passed peer).figured busy ended
        else (relay.nextPass order busy began).passed peer := by
  have proper := relay.proper_nextPass order busy began formed
  obtain ⟨-, reported, reads⟩ :=
    (relay.recorded order busy began ended).reportWindow_spec order busy ended
      (relay.keyed_recorded order busy began ended formed)
  refine ⟨reported, fun id => (reads id).trans ?_⟩
  rw [(relay.recorded_spec order busy began ended).1, proper.find?_result, Option.map_map]
  rfl

/-- What a tick leaves of each peer is what its pass makes of it. -/
theorem find?_tick (formed : relay.directory.WellFormed) :
    ∃ change : Peer → Peer,
      (∀ id, (relay.tick order busy began ended).2.directory.find? id =
        ((relay.beforePass order busy began).directory.find? id).map change) ∧
      ∀ peer, (relay.nextPass order busy began).Leaves peer (change peer) := by
  obtain ⟨reported, left⟩ := relay.find?_tick_passed order busy began ended formed
  refine ⟨_, left, fun peer => ?_⟩
  cases reported with
  | false => exact Pass.Leaves.passed _ peer
  | true => exact (Pass.Leaves.passed _ peer).figured busy ended

/-- Once the events were taken up, a tick keeps every session in its place; and no peer
ignores any longer whom it is to be purged of. -/
theorem find?_tick_settled (formed : relay.directory.WellFormed) :
    ∃ change : Peer → Peer,
      (∀ id, (relay.tick order busy began ended).2.directory.find? id =
        (((relay.timed began).processEvents order).directory.find? id).map change) ∧
      ∀ peer, (change peer).key = peer.key ∧ (change peer).role = peer.role ∧
        (change peer).client.isSome = peer.client.isSome ∧
        ∀ other, (change peer).isIgnoring other = true ↔
          other ∉ dues ((relay.timed began).processEvents order).purges peer.key ∧
            peer.isIgnoring other = true := by
  obtain ⟨change, maps, leaves⟩ := relay.find?_tick order busy began ended formed
  refine ⟨fun peer => change (peer.purgedOfAll (busy peer.key)
    (dues ((relay.timed began).processEvents order).purges peer.key)), fun id => ?_, fun peer => ?_⟩
  · rw [maps, relay.find?_beforePass order busy began formed, Option.map_map]
    rfl
  · refine ⟨?_, ?_, ?_, fun other => ?_⟩
    · exact (leaves _).key.trans (Peer.key_purgedOfAll _ _)
    · exact (leaves _).role.trans (Peer.role_purgedOfAll _ _)
    · exact (leaves _).present.trans (Peer.isSome_client_purgedOfAll _ _)
    · rw [(leaves _).ignored, Peer.isIgnoring_purgedOfAll]

theorem wellFormed_tick (formed : relay.directory.WellFormed) :
    (relay.tick order busy began ended).2.directory.WellFormed := by
  obtain ⟨change, maps, leaves⟩ := relay.find?_tick order busy began ended formed
  have sameLast := (relay.tick_keeps order busy began ended formed).2.2.2
  refine (relay.wellFormed_beforePass order busy began formed).of_map ?_ maps
    fun peer => (leaves peer).key
  rw [sameLast, relay.lastSession_beforePass order busy began formed]

end Tick

end Relay

end AvatarRelay
