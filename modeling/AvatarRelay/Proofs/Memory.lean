/-
# What is remembered

Sessions remember other peers by identifier, and identifiers come and go. Throughout any
run, whoever is remembered is another peer that is still connected as an agent, or one
that the remembering session is owed a purge of. A tick that finds all client data free
leaves no purge owed, and so nobody remembered who is not connected.
-/

import AvatarRelay.Proofs.Steps

namespace AvatarRelay

namespace Relay

def HasAgent (relay : Relay) (id : PeerId) : Prop :=
  ∃ agent, relay.directory.find? id = some agent ∧ agent.role.carriesAvatar = true

/-- Whoever is remembered is accounted for, with some events still to come: it is
another peer, and a connected agent or one whose purge is owed. -/
def Accounted (relay : Relay) (coming : List PeerEvent) : Prop :=
  ∀ ⦃peer : Peer⦄ ⦃other : PeerId⦄, relay.directory.find? peer.id = some peer →
    peer.remembers other = true →
      other ≠ peer.id ∧ (relay.HasAgent other ∨ relay.Owes coming peer.key other)

/-- What holds of a relay between operations. -/
structure Traced (relay : Relay) : Prop where
  formed : relay.directory.WellFormed
  accounted : relay.Accounted relay.events.pending
  /-- Only connected peers have replaced sessions that were not taken up yet. -/
  replacing : ∀ {key : SessionKey}, .replaced key ∈ relay.events.pending →
    relay.directory.find? key.id ≠ none

theorem owes_nil {relay : Relay} {holder : SessionKey} {departed : PeerId} :
    relay.Owes [] holder departed ↔ departed ∈ dues relay.purges holder := by
  simp [Owes, mem_dues]

/-- Agents stay where each peer is changed by itself, in its role. -/
theorem HasAgent.of_map {before after : Relay} {change : Peer → Peer} {id : PeerId}
    (has : before.HasAgent id)
    (maps : ∀ id, after.directory.find? id = (before.directory.find? id).map change)
    (roles : ∀ peer, (change peer).role = peer.role) : after.HasAgent id := by
  obtain ⟨agent, here, carries⟩ := has
  refine ⟨change agent, ?_, ?_⟩
  · rw [maps, here, Option.map_some]
  · rw [roles, carries]

/-- Taking up events keeps whoever is remembered accounted for: who leaves is owed. -/
theorem Settles.accounted {before after : Relay} {coming rest : List PeerEvent}
    {mail : List Parcel} (settles : before.Settles coming mail after rest)
    (accounted : before.Accounted coming) : after.Accounted rest := by
  intro peer other connected remembered
  obtain ⟨apart, agent | owed⟩ := accounted (settles.find?_before connected) remembered
  · refine ⟨apart, ?_⟩
    obtain ⟨agent, there, carries⟩ := agent
    rcases settles.kept other with same | gone
    · exact Or.inl ⟨agent, same.trans there, carries⟩
    · exact Or.inr ((settles.owed connected (Ne.symm apart)).mpr
        (Or.inr ⟨by simp [there], gone⟩))
  · exact ⟨apart, Or.inr ((settles.owed connected (Ne.symm apart)).mpr (Or.inl owed))⟩

section Tick

variable {relay : Relay} (order : VisitOrder) (busy : SessionKey → Bool) (began ended : Instant)

/-- Carrying on with purges keeps whoever is remembered accounted for: who is not purged
now stays on its list. -/
theorem Accounted.retryPurges (keyed : relay.directory.Keyed) (accounted : relay.Accounted []) :
    (relay.retryPurges busy).Accounted [] := by
  have maps := (relay.retryPurges_spec busy keyed).2.maps
  intro after other connected remembered
  rw [maps, Option.map_eq_some_iff] at connected
  obtain ⟨peer, there, rfl⟩ := connected
  have sameKey : (peer.purgedOfAll (busy peer.key) (dues relay.purges peer.key)).key =
      peer.key := Peer.key_purgedOfAll _ _
  rw [Peer.id_eq_of_key sameKey] at there
  rw [sameKey, Peer.id_eq_of_key sameKey]
  rw [Peer.remembers_purgedOfAll] at remembered
  obtain ⟨inUse, remembered⟩ := remembered
  obtain ⟨apart, agent | owed⟩ := accounted there remembered
  · exact ⟨apart, Or.inl (agent.of_map maps fun peer => Peer.role_purgedOfAll _ peer)⟩
  · refine ⟨apart, Or.inr ?_⟩
    rw [owes_retryPurges busy relay keyed, lingers_of_connected busy there,
      Peer.isSome_client_of_remembers remembered, Bool.and_true]
    exact ⟨owed, inUse.resolve_right (not_not_intro (owes_nil.mp owed))⟩

/-- A pass has nobody remembered but those that take part in it. -/
theorem Accounted.tick (formed : relay.directory.WellFormed)
    (accounted : (relay.beforePass order busy began).Accounted []) :
    (relay.tick order busy began ended).2.Accounted [] := by
  obtain ⟨change, maps, leaves⟩ := relay.find?_tick order busy began ended formed
  have samePurges := (relay.tick_keeps order busy began ended formed).2.1
  intro after other connected remembered
  rw [maps, Option.map_eq_some_iff] at connected
  obtain ⟨peer, there, rfl⟩ := connected
  have sameKey := (leaves peer).key
  rw [Peer.id_eq_of_key sameKey] at there
  rw [sameKey, Peer.id_eq_of_key sameKey]
  have stays {agent : PeerId} (has : (relay.beforePass order busy began).HasAgent agent) :
      (relay.tick order busy began ended).2.HasAgent agent :=
    has.of_map maps fun peer => (leaves peer).role
  rw [(leaves peer).remembers] at remembered
  rcases Pass.remembers_passed remembered with before | ⟨apart, candidate, present, rfl⟩
  · obtain ⟨apart, agent | owed⟩ := accounted there before
    · exact ⟨apart, Or.inl (stays agent)⟩
    · refine ⟨apart, Or.inr ?_⟩
      rw [owes_nil, samePurges, ← owes_nil]
      exact owed
  · obtain ⟨id, -, agent, client, here, reached, -, rfl⟩ := Candidate.mem_gather.mp present
    have own : agent.id = id := (relay.wellFormed_beforePass order busy began formed).keyed here
    have carries : agent.role.carriesAvatar = true := (Bool.and_eq_true _ _ ▸ reached).1
    exact ⟨apart, Or.inl (stays ⟨agent, by rw [← own] at here; exact here, carries⟩)⟩

end Tick

namespace Traced

variable {relay : Relay}

theorem opened (config : Config) (fanout : Fanout) : (Relay.opened config fanout).Traced where
  formed := Directory.WellFormed.empty
  accounted peer other connected _ := by
    rw [find?_opened] at connected
    cases connected
  replacing coming := by cases coming

theorem steady {after : Relay} (traced : relay.Traced) (steady : relay.Steady after) :
    after.Traced where
  formed := steady.wellFormed traced.formed
  accounted kin other connected remembered := by
    obtain ⟨peer, there, alike⟩ := steady.find?_before connected
    rw [Peer.id_eq_of_key alike.key] at there ⊢
    rw [alike.remembers] at remembered
    rw [alike.key, steady.owes_iff]
    refine (traced.accounted there remembered).imp_right (Or.imp_left ?_)
    rintro ⟨agent, here, carries⟩
    obtain ⟨kinAgent, found, alikeAgent⟩ := steady.found here
    exact ⟨kinAgent, found, by rw [alikeAgent.role, carries]⟩
  replacing {key} coming absent := by
    cases there : relay.directory.find? key.id with
    | none => exact traced.replacing ((steady.replaced key).mp coming) there
    | some peer =>
      obtain ⟨kin, found, -⟩ := steady.found there
      rw [absent] at found
      cases found

/-- A session that begins remembers nobody, and nobody remembers it who is not owed a
purge of the one before. -/
theorem connect (traced : relay.Traced) (id : PeerId) (role : Role) :
    (relay.connect id role).2.Traced where
  formed := relay.wellFormed_connect traced.formed id role
  accounted peer other connected remembered := by
    rw [find?_connect] at connected
    split at connected
    · cases connected
      cases remembered
    · next apart =>
      obtain ⟨different, known⟩ := traced.accounted connected remembered
      refine ⟨different, ?_⟩
      rw [relay.owes_connect traced.formed]
      rcases known with ⟨agent, here, carries⟩ | owed
      · by_cases again : other = id
        · exact Or.inr (Or.inr ⟨again, by rw [← again, here]; exact Option.some_ne_none _⟩)
        · exact Or.inl ⟨agent, by rw [find?_connect, if_neg again, here], carries⟩
      · exact Or.inr (Or.inl owed)
  replacing {key} coming := by
    rw [find?_connect]
    split
    · exact Option.some_ne_none _
    · next apart =>
      rcases (relay.replaced_connect id role key).mp coming with before | ⟨old, there, rfl⟩
      · exact traced.replacing before
      · exact absurd (traced.formed.keyed there) apart

theorem tick (traced : relay.Traced) (order : VisitOrder) (busy : SessionKey → Bool)
    (began ended : Instant) : (relay.tick order busy began ended).2.Traced := by
  have settles := relay.settles_timed order began traced.formed
  have settled : ((relay.timed began).processEvents order).Accounted [] :=
    settles.accounted traced.accounted
  have ready : (relay.beforePass order busy began).Accounted [] :=
    settled.retryPurges busy (settles.wellFormed traced.formed).keyed
  have nothing := (relay.tick_keeps order busy began ended traced.formed).2.2.1
  refine ⟨relay.wellFormed_tick order busy began ended traced.formed, ?_, ?_⟩
  · rw [nothing]
    exact ready.tick order busy began ended traced.formed
  · intro key coming
    rw [nothing] at coming
    cases coming

theorem apply (traced : relay.Traced) (operation : Operation) :
    (relay.apply operation).Traced := by
  cases operation with
  | connect id role => exact traced.connect id role
  | receive sender bytes now =>
    exact traced.steady (relay.steady_receive traced.formed sender bytes now)
  | disconnect key => exact traced.steady (relay.steady_push rfl)
  | rewire transport => exact traced.steady (Steady.of_eq rfl rfl rfl)
  | tick order busy began ended => exact traced.tick order busy began ended

theorem run (traced : relay.Traced) (operations : List Operation) :
    (relay.run operations).Traced := by
  induction operations generalizing relay with
  | nil => exact traced
  | cons operation rest ih => exact ih (traced.apply operation)

end Traced

section Rest

variable {relay : Relay} (order : VisitOrder) (began ended : Instant)

/-- A tick that finds all client data free finishes every purge. -/
theorem purges_tick_free (formed : relay.directory.WellFormed) :
    (relay.tick order (fun _ => false) began ended).2.purges = [] := by
  have settled := (relay.settles_timed order began formed).wellFormed formed
  rw [(relay.tick_keeps order (fun _ => false) began ended formed).2.1, beforePass,
    (retryPurges_spec (fun _ => false) _ settled.keyed).1, List.filter_eq_nil_iff]
  intro purge listed
  obtain ⟨before, -, rfl⟩ := List.mem_map.mp listed
  simp [leftover, lingers_free]

/-- Nobody who stays ignores the identifier of a session that a tick removed, even if its
client data was in use. -/
theorem isIgnoring_tick (formed : relay.directory.WellFormed) (busy : SessionKey → Bool)
    {gone peer : Peer} (there : relay.directory.find? gone.id = some gone)
    (left : (relay.tick order busy began ended).2.directory.findSession? gone.key = none)
    (connected : (relay.tick order busy began ended).2.directory.find? peer.id = some peer) :
    peer.isIgnoring gone.id = false := by
  obtain ⟨change, maps, changes⟩ := relay.find?_tick_settled order busy began ended formed
  have settles := relay.settles_timed order began formed
  -- The session is not found because its identifier is not connected any more.
  have removed : ((relay.timed began).processEvents order).directory.find? gone.id = none := by
    rcases settles.kept gone.id with same | none
    · have found := maps gone.id
      rw [same, show (relay.timed began).drained.directory = relay.directory from rfl, there,
        Option.map_some] at found
      have session : (change gone).session = gone.session :=
        congrArg SessionKey.session (changes gone).1
      rw [(Directory.findSession?_eq_some_iff _).mpr ⟨found, session⟩] at left
      cases left
    · exact none
  rw [maps, Option.map_eq_some_iff] at connected
  obtain ⟨before, here, rfl⟩ := connected
  have sameId := Peer.id_eq_of_key (changes before).1
  rw [sameId] at here
  have apart : before.id ≠ gone.id := by
    intro same
    rw [same, removed] at here
    cases here
  have owed : ((relay.timed began).processEvents order).Owes [] before.key gone.id := by
    refine (settles.owed here apart).mpr (Or.inr ⟨?_, removed⟩)
    rw [show (relay.timed began).drained.directory = relay.directory from rfl, there]
    exact Option.some_ne_none _
  rw [Bool.eq_false_iff]
  intro ignoring
  exact ((changes before).2.2.2 gone.id).mp ignoring |>.1 (owes_nil.mp owed)

end Rest

/-- No identifier outlives its peer in the memory of others. After any run, whoever a
connected peer remembers is another peer, and is connected or to be purged from just this
session. After one more tick that finds all client data free no purge is left: everyone
remembered is a connected agent, and nobody ignores a session that the tick removed. -/
theorem memory_of_run (config : Config) (fanout : Fanout) (operations : List Operation) :
    let relay := (opened config fanout).run operations
    (∀ id peer other, relay.directory.find? id = some peer → peer.remembers other = true →
      other ≠ id ∧ (relay.directory.find? other ≠ none ∨
        ∃ purge ∈ relay.purges, purge.departed = other ∧ peer.key ∈ purge.remaining)) ∧
    ∀ order began ended, let after := (relay.tick order (fun _ => false) began ended).2
      after.purges = [] ∧
      (∀ id peer other, after.directory.find? id = some peer → peer.remembers other = true →
        ∃ agent, after.directory.find? other = some agent ∧ agent.role = .agent) ∧
      ∀ gone, relay.directory.find? gone.id = some gone →
        after.directory.findSession? gone.key = none →
          ∀ id peer, after.directory.find? id = some peer →
            peer.isIgnoring gone.id = false := by
  intro relay
  have traced : relay.Traced := (Traced.opened config fanout).run operations
  constructor
  · intro id peer other connected remembered
    have own : peer.id = id := traced.formed.keyed connected
    subst own
    obtain ⟨apart, agent | purge | replaced⟩ := traced.accounted connected remembered
    · obtain ⟨agent, here, -⟩ := agent
      exact ⟨apart, Or.inl (by simp [here])⟩
    · exact ⟨apart, Or.inr purge⟩
    · obtain ⟨key, coming, rfl⟩ := replaced
      exact ⟨apart, Or.inl (traced.replacing coming)⟩
  · intro order began ended after
    have later : after.Traced := traced.tick order (fun _ => false) began ended
    have finished : after.purges = [] := purges_tick_free order began ended traced.formed
    refine ⟨finished, fun id peer other connected remembered => ?_,
      fun gone there left id peer connected => ?_⟩
    · have own : peer.id = id := later.formed.keyed connected
      subst own
      have nothing : after.events.pending = [] :=
        (relay.tick_keeps order (fun _ => false) began ended traced.formed).2.2.1
      obtain ⟨-, ⟨agent, here, carries⟩ | owed⟩ := later.accounted connected remembered
      · exact ⟨agent, here, of_decide_eq_true carries⟩
      · rw [nothing, owes_nil, finished] at owed
        cases owed
    · have own : peer.id = id := later.formed.keyed connected
      subst own
      exact isIgnoring_tick order began ended traced.formed _ there left connected

end Relay

end AvatarRelay
