/-
# A crowd in step with its relay

A crowd joins, leaves and counts its updates by itself, while the relay ends sessions only when
it makes its next tick. The two stay in step nevertheless: whoever is connected is one of the
crowd, or the end of its session has been reported; and of each of the crowd the relay holds the
latest update. Every event keeps that, so it holds along every run, in which the numbers of
updates may wrap around as often as they like.
-/

import AvatarRelay.Proofs.Wanderers

namespace AvatarRelay

namespace Crowd

variable {crowd : Crowd} {relay : Relay} {used : List PeerId} {steps : PeerId → Nat}

def ids (crowd : Crowd) : List PeerId := crowd.wanderers.map Wanderer.id

def Finite (crowd : Crowd) : Prop :=
  ∀ wanderer ∈ crowd.wanderers, wanderer.position.isFinite = true

instance : Decidable crowd.Finite :=
  inferInstanceAs (Decidable (∀ wanderer ∈ crowd.wanderers, wanderer.position.isFinite = true))

/-- A crowd is in step with a relay that nobody else visits: some identifiers were used so far,
and under each of them some steps were taken. -/
structure InStep (crowd : Crowd) (relay : Relay) (used : List PeerId) (steps : PeerId → Nat) :
    Prop where
  formed : relay.directory.WellFormed
  distinct : crowd.ids.Nodup
  within : crowd.ids ⊆ used
  served : ∀ wanderer ∈ crowd.wanderers, relay.Serves wanderer
  counted : ∀ wanderer ∈ crowd.wanderers, wanderer.number = UInt16.ofNat (steps wanderer.id)
  unused : ∀ id, id ∉ used → steps id = 0
  /-- What is reported are the ends of sessions of those who have left. -/
  leaving : ∀ event ∈ relay.events.pending,
    ∃ key, event = .disconnected key ∧ key.id ∈ used ∧ key.id ∉ crowd.ids
  /-- Who is connected is one of the crowd, or has left and that was reported. -/
  known : ∀ {peer : Peer}, relay.directory.find? peer.id = some peer →
    peer.id ∈ crowd.ids ∨ .disconnected peer.key ∈ relay.events.pending
  dropped : relay.metrics.staleUpdates = 0

namespace InStep

/-- Nothing but the wanderers of a crowd matters. -/
theorem of_wanderers (inStep : crowd.InStep relay used steps) {other : Crowd}
    (same : other.wanderers = crowd.wanderers) : other.InStep relay used steps := by
  have ids : other.ids = crowd.ids := congrArg (List.map Wanderer.id) same
  obtain ⟨formed, distinct, within, served, counted, unused, leaving, known, dropped⟩ := inStep
  rw [← ids] at distinct within leaving known
  rw [← same] at served counted
  exact ⟨formed, distinct, within, served, counted, unused, leaving, known, dropped⟩

theorem use (inStep : crowd.InStep relay used steps) (more : List PeerId) :
    crowd.InStep relay (used ++ more) steps :=
  { inStep with
    within := fun _ listed => List.mem_append_left _ (inStep.within listed)
    unused := fun id absent => inStep.unused id fun listed => absent (List.mem_append_left _ listed)
    leaving := fun event reported => by
      obtain ⟨key, same, before, gone⟩ := inStep.leaving event reported
      exact ⟨key, same, List.mem_append_left _ before, gone⟩ }

/-- Nobody is connected under an identifier that was not used. -/
theorem absent (inStep : crowd.InStep relay used steps) {id : PeerId} (fresh : id ∉ used) :
    relay.directory.find? id = none := by
  rw [Option.eq_none_iff_forall_ne_some]
  intro peer there
  have own : peer.id = id := inStep.formed.keyed there
  subst own
  rcases inStep.known there with listed | reported
  · exact fresh (inStep.within listed)
  · obtain ⟨key, same, before, -⟩ := inStep.leaving _ reported
    cases same
    exact fresh before

theorem join (inStep : crowd.InStep relay used steps) {id : PeerId} (fresh : id ∉ used)
    (now : Instant) :
    (crowd.join relay id now).1.InStep (crowd.join relay id now).2 (used ++ [id]) steps := by
  obtain ⟨wanderer, joined, own, still, serves, concerns⟩ :=
    crowd.join_spec inStep.formed (inStep.absent fresh) now
  have ids : (crowd.join relay id now).1.ids = crowd.ids ++ [id] := by
    rw [Crowd.ids, joined, List.map_append, List.map_singleton, own]
    rfl
  have others {other : Wanderer} (listed : other ∈ crowd.wanderers) : other.id ∉ [id] := by
    rw [List.mem_singleton]
    rintro rfl
    exact fresh (inStep.within (List.mem_map_of_mem listed))
  constructor
  case formed => exact concerns.formed
  case distinct =>
    rw [ids, ← List.concat_eq_append, List.nodup_concat]
    exact ⟨fun listed => fresh (inStep.within listed), inStep.distinct⟩
  case within =>
    rw [ids]
    exact List.append_subset.mpr ⟨fun _ listed => List.mem_append_left _ (inStep.within listed),
      List.subset_append_right _ _⟩
  case served =>
    rw [joined]
    intro other listed
    rcases List.mem_append.mp listed with before | new
    · exact (inStep.served other before).of_concerns concerns (others before)
    · rw [List.mem_singleton.mp new]
      exact serves
  case counted =>
    rw [joined]
    intro other listed
    rcases List.mem_append.mp listed with before | new
    · exact inStep.counted other before
    · rw [List.mem_singleton.mp new, still, own, inStep.unused id fresh]
      rfl
  case unused =>
    intro other absent
    exact inStep.unused other fun listed => absent (List.mem_append_left _ listed)
  case leaving =>
    rw [concerns.events, ids]
    intro event reported
    obtain ⟨key, same, before, gone⟩ := inStep.leaving event reported
    refine ⟨key, same, List.mem_append_left _ before, fun listed => ?_⟩
    rcases List.mem_append.mp listed with member | new
    · exact gone member
    · exact fresh (List.mem_singleton.mp new ▸ before)
  case known =>
    intro peer there
    rw [concerns.events, ids]
    by_cases new : peer.id ∈ [id]
    · exact Or.inl (List.mem_append_right _ new)
    · rw [concerns.others _ new] at there
      exact (inStep.known there).imp_left (List.mem_append_left _)
  case dropped => rw [concerns.dropped, inStep.dropped]

theorem leave (inStep : crowd.InStep relay used steps) (someone : crowd.wanderers ≠ []) :
    (crowd.leave relay).1.InStep (crowd.leave relay).2 used steps := by
  obtain ⟨leaver, remaining, left⟩ := crowd.leave_spec relay someone
  have ids : crowd.ids.Perm (leaver.id :: (crowd.leave relay).1.ids) := remaining.map Wanderer.id
  obtain ⟨gone, distinct⟩ := List.nodup_cons.mp (ids.nodup_iff.mp inStep.distinct)
  have member : leaver ∈ crowd.wanderers := remaining.mem_iff.mpr List.mem_cons_self
  have stays {wanderer : Wanderer} (listed : wanderer ∈ (crowd.leave relay).1.wanderers) :
      wanderer ∈ crowd.wanderers := remaining.mem_iff.mpr (List.mem_cons_of_mem _ listed)
  have fewer : (crowd.leave relay).1.ids ⊆ crowd.ids := fun _ listed =>
    ids.mem_iff.mpr (List.mem_cons_of_mem _ listed)
  rw [left]
  constructor
  case formed => exact inStep.formed
  case distinct => exact distinct
  case within => exact List.Subset.trans fewer inStep.within
  case served =>
    intro wanderer listed
    refine (inStep.served wanderer (stays listed)).of_eq rfl ?_
    refine (Loopback.hasActiveAddress_forget _ _ _).trans (if_neg fun same => gone ?_)
    exact same ▸ List.mem_map_of_mem listed
  case counted => exact fun wanderer listed => inStep.counted wanderer (stays listed)
  case unused => exact inStep.unused
  case leaving =>
    intro event reported
    rcases List.mem_append.mp reported with before | new
    · obtain ⟨key, same, listed, missing⟩ := inStep.leaving event before
      exact ⟨key, same, listed, fun member => missing (fewer member)⟩
    · exact ⟨leaver.key, List.mem_singleton.mp new,
        inStep.within (List.mem_map_of_mem member), gone⟩
  case known =>
    intro peer there
    rcases inStep.known there with listed | before
    · rcases List.mem_cons.mp (ids.mem_iff.mp listed) with own | still
      · obtain ⟨other, found, key, -⟩ := (inStep.served leaver member).connected
        rw [← own, show relay.directory.find? peer.id = some peer from there] at found
        cases found
        rw [key]
        exact Or.inr (List.mem_append_right _ List.mem_cons_self)
      · exact Or.inl still
    · exact Or.inr (List.mem_append_left _ before)
  case dropped => exact inStep.dropped

theorem exchange (inStep : crowd.InStep relay used steps) (someone : crowd.wanderers ≠ [])
    {fresh : PeerId} (unused : fresh ∉ used) (now : Instant) :
    (crowd.exchange relay fresh now).1.InStep (crowd.exchange relay fresh now).2
      (used ++ [fresh]) steps := by
  simp only [Crowd.exchange]
  split
  · exact inStep.use [fresh]
  · generalize crowd.random.happens crowd.churn = drawn
    have same : ({ crowd with random := drawn.2 } : Crowd).InStep relay used steps :=
      inStep.of_wanderers rfl
    split
    · exact (same.leave someone).join unused now
    · exact same.use [fresh]

theorem report (inStep : crowd.InStep relay used steps) {moved : Crowd}
    (moves : List.Forall₂ Wanderer.Moves crowd.wanderers moved.wanderers)
    (finite : moved.Finite) (reported : PeerId → Instant) :
    moved.InStep (moved.wanderers.foldl (Crowd.report reported) relay) used
      fun id => steps id + if id ∈ moved.ids then 1 else 0 := by
  have ids : moved.ids = crowd.ids := Wanderer.ids_of_moves moves
  have distinct : moved.ids.Nodup := ids ▸ inStep.distinct
  obtain ⟨served, concerns⟩ :=
    reports_spec inStep.formed moves distinct inStep.served finite reported
  constructor
  case formed => exact concerns.formed
  case distinct => exact distinct
  case within => exact ids ▸ inStep.within
  case served => exact served
  case counted =>
    intro wanderer listed
    obtain ⟨before, there, move⟩ := Wanderer.exists_of_moves moves listed
    rw [move.number, inStep.counted before there, move.id, if_pos, UInt16.ofNat_add]
    · rfl
    · rw [ids]
      exact List.mem_map_of_mem there
  case unused =>
    intro id absent
    rw [inStep.unused id absent, if_neg]
    exact fun listed => absent (inStep.within (ids ▸ listed))
  case leaving =>
    rw [concerns.events, ids]
    exact inStep.leaving
  case known =>
    intro peer there
    rw [concerns.events]
    by_cases member : peer.id ∈ moved.ids
    · exact Or.inl member
    · rw [concerns.others _ member] at there
      rw [ids]
      exact inStep.known there
  case dropped => rw [concerns.dropped, inStep.dropped]

theorem step (inStep : crowd.InStep relay used steps) (someone : crowd.wanderers ≠ [])
    {fresh : PeerId} (unused : fresh ∉ used) {elapsed : Binary32} {joined : Instant}
    {reported : PeerId → Instant}
    (finite : (crowd.step relay fresh elapsed joined reported).1.Finite) :
    let stepped := crowd.step relay fresh elapsed joined reported
    stepped.1.InStep stepped.2 (used ++ [fresh])
      fun id => steps id + if id ∈ stepped.1.ids then 1 else 0 := by
  intro after
  obtain ⟨walked, random, stepped, moves⟩ :=
    crowd.step_spec relay fresh elapsed joined reported
  rw [show after = _ from stepped]
  rw [stepped] at finite
  exact (inStep.exchange someone unused joined).report moves finite reported

/-- Whose session has ended is not one of the crowd. -/
theorem endedBy_iff (inStep : crowd.InStep relay used steps) {peer : Peer}
    (there : relay.directory.find? peer.id = some peer) :
    peer.endedBy relay.events.pending = true ↔ peer.id ∉ crowd.ids := by
  rw [Peer.endedBy, List.any_eq_true]
  constructor
  · rintro ⟨event, listed, ends⟩
    obtain ⟨key, rfl, -, gone⟩ := inStep.leaving event listed
    rw [PeerEvent.ends_disconnected_iff.mp ends] at gone
    exact gone
  · intro gone
    exact ⟨_, (inStep.known there).resolve_left gone, PeerEvent.ends_disconnected_iff.mpr rfl⟩

section Tick

variable (inStep : crowd.InStep relay used steps) (order : VisitOrder) (busy : SessionKey → Bool)
  (began ended : Instant)

include inStep

/-- A tick ends the sessions of those who have left, and of nobody else. -/
theorem find?_tick :
    ∃ reported, ∀ id, (relay.tick order busy began ended).2.directory.find? id =
      if id ∈ crowd.ids then
        (relay.directory.find? id).map (relay.ticked order busy began ended reported)
      else none := by
  obtain ⟨reported, maps⟩ := relay.find?_ticked order busy began ended inStep.formed
  refine ⟨reported, fun id => ?_⟩
  have stays : ((relay.timed began).processEvents order).directory.find? id =
      (relay.directory.find? id).filter (!·.endedBy relay.events.pending) :=
    ((relay.timed began).ends_processEvents order inStep.formed).stays id
  rw [maps, stays]
  cases there : relay.directory.find? id with
  | none => simp
  | some peer =>
    have own : peer.id = id := inStep.formed.keyed there
    subst own
    have gone := inStep.endedBy_iff there
    by_cases member : peer.id ∈ crowd.ids
    · have still : peer.endedBy relay.events.pending = false :=
        Bool.eq_false_iff.mpr fun left => gone.mp left member
      rw [if_pos member, Option.filter_some_pos (by rw [still, Bool.not_false])]
    · rw [if_neg member, Option.filter_some_neg (by rw [gone.mpr member, Bool.not_true])]
      rfl

theorem tick : crowd.InStep (relay.tick order busy began ended).2 used steps := by
  obtain ⟨reported, found⟩ := inStep.find?_tick order busy began ended
  obtain ⟨transport, -, pending, -⟩ := relay.tick_keeps order busy began ended inStep.formed
  constructor
  case formed => exact relay.wellFormed_tick order busy began ended inStep.formed
  case distinct => exact inStep.distinct
  case within => exact inStep.within
  case served =>
    intro wanderer listed
    have member : wanderer.id ∈ crowd.ids := List.mem_map_of_mem listed
    obtain ⟨⟨peer, there, key, upTo⟩, reachable⟩ := inStep.served wanderer listed
    refine ⟨⟨_, ?_, ?_, upTo.ticked relay order busy began ended reported⟩, ?_⟩
    · rw [found, if_pos member, there, Option.map_some]
    · rw [relay.key_ticked, key]
    · rw [transport, Loopback.hasActiveAddress_deliverAll, reachable]
  case counted => exact inStep.counted
  case unused => exact inStep.unused
  case leaving =>
    rw [pending]
    exact fun event reported => absurd reported List.not_mem_nil
  case known =>
    intro peer there
    rw [found] at there
    split at there
    · next member => exact Or.inl member
    · cases there
  case dropped => rw [relay.staleUpdates_tick order busy began ended inStep.formed, inStep.dropped]

/-- After a tick exactly the crowd is connected. -/
theorem ids_tick :
    ((relay.tick order busy began ended).2.directory.toList.map Peer.id).Perm crowd.ids := by
  obtain ⟨reported, found⟩ := inStep.find?_tick order busy began ended
  have keyed := (relay.wellFormed_tick order busy began ended inStep.formed).keyed
  rw [List.perm_ext_iff_of_nodup keyed.nodup_ids inStep.distinct]
  intro id
  rw [keyed.mem_ids_iff, found]
  split
  · next member =>
    obtain ⟨wanderer, listed, rfl⟩ := List.mem_map.mp member
    obtain ⟨peer, there, -⟩ := (inStep.served wanderer listed).connected
    simp [there, member]
  · next stranger => simp [stranger]

end Tick

end InStep

def joinAll (joined : PeerId → Instant) (state : Crowd × Relay) (ids : List PeerId) :
    Crowd × Relay :=
  ids.foldl (fun (crowd, relay) id => crowd.join relay id (joined id)) state

theorem joinAll_cons (joined : PeerId → Instant) (state : Crowd × Relay) (id : PeerId)
    (rest : List PeerId) :
    joinAll joined state (id :: rest) =
      joinAll joined (state.1.join state.2 id (joined id)) rest := by
  obtain ⟨crowd, relay⟩ := state
  rfl

theorem length_joinAll (joined : PeerId → Instant) (state : Crowd × Relay) (ids : List PeerId) :
    (joinAll joined state ids).1.wanderers.length = state.1.wanderers.length + ids.length := by
  induction ids generalizing state with
  | nil => rfl
  | cons id rest ih =>
    rw [joinAll_cons, ih, length_join, List.length_cons, Nat.succ_add_eq_add_succ]

theorem InStep.joinAll (state : Crowd × Relay) (inStep : state.1.InStep state.2 used steps)
    {ids : List PeerId} (distinct : (used ++ ids).Nodup) (joined : PeerId → Instant) :
    (Crowd.joinAll joined state ids).1.InStep (Crowd.joinAll joined state ids).2
      (used ++ ids) steps := by
  induction ids generalizing state used with
  | nil =>
    rw [List.append_nil]
    exact inStep
  | cons id rest ih =>
    have fresh : id ∉ used := fun listed =>
      List.disjoint_of_nodup_append distinct listed List.mem_cons_self
    rw [List.append_cons] at distinct ⊢
    rw [joinAll_cons]
    exact ih _ (inStep.join fresh (joined id)) distinct

theorem InStep.opened (config : Config) (fanout : Fanout) (transport : Loopback) (seed : UInt64)
    (attempts : Nat) (churn : BinaryFraction) :
    (empty seed attempts churn).InStep ((Relay.opened config fanout).withTransport transport) []
      fun _ => 0 where
  formed := Directory.WellFormed.empty
  distinct := List.nodup_nil
  within := List.nil_subset _
  served _ listed := absurd listed List.not_mem_nil
  counted _ listed := absurd listed List.not_mem_nil
  unused _ _ := rfl
  leaving _ reported := absurd reported List.not_mem_nil
  known {peer} there := by
    have nobody := Relay.find?_opened config fanout peer.id
    cases nobody.symm.trans there
  dropped := rfl

end Crowd

/-! ## Scenes -/

structure Scene where
  crowd : Crowd
  relay : Relay

namespace Scene

/-- A crowd has joined a relay that nobody else visits. -/
def opened (config : Config) (fanout : Fanout) (transport : Loopback) (ids : List PeerId)
    (seed : UInt64) (attempts : Nat) (churn : BinaryFraction) (joined : PeerId → Instant) :
    Scene :=
  let spawned := Crowd.spawn ((Relay.opened config fanout).withTransport transport) ids seed
    attempts churn joined
  ⟨spawned.1, spawned.2⟩

inductive Event
  /-- The crowd takes a step. Who may join does so under the fresh identifier. -/
  | step (fresh : PeerId) (elapsed : Binary32) (joined : Instant) (reported : PeerId → Instant)
  /-- The relay makes a tick. -/
  | tick (order : VisitOrder) (busy : SessionKey → Bool) (began ended : Instant)

namespace Event

def drawn : Event → List PeerId
  | step fresh _ _ _ => [fresh]
  | tick .. => []

def isStep : Event → Bool
  | step .. => true
  | tick .. => false

end Event

def next (scene : Scene) : Event → Scene
  | .step fresh elapsed joined reported =>
    let stepped := scene.crowd.step scene.relay fresh elapsed joined reported
    ⟨stepped.1, stepped.2⟩
  | .tick order busy began ended => ⟨scene.crowd, (scene.relay.tick order busy began ended).2⟩

def after (scene : Scene) (events : List Event) : Scene :=
  events.foldl next scene

/-- The number of steps of a run that are taken under an identifier. -/
def stepsOf (scene : Scene) (id : PeerId) : List Event → Nat
  | [] => 0
  | event :: rest =>
    (if event.isStep = true ∧ id ∈ (scene.next event).crowd.ids then 1 else 0) +
      (scene.next event).stepsOf id rest

/-- After every event of a run the crowd is at finite positions. -/
def StaysFinite (scene : Scene) : List Event → Prop
  | [] => True
  | event :: rest =>
    (scene.next event).crowd.Finite ∧ (scene.next event).StaysFinite rest

instance (scene : Scene) (events : List Event) : Decidable (scene.StaysFinite events) :=
  decideStaysFinite scene events
where
  decideStaysFinite : (scene : Scene) → (events : List Event) →
      Decidable (scene.StaysFinite events)
    | _, [] => isTrue trivial
    | scene, event :: rest =>
      @instDecidableAnd _ _ _ (decideStaysFinite (scene.next event) rest)

variable {scene : Scene} {used : List PeerId} {steps : PeerId → Nat}

theorem length_next (someone : scene.crowd.wanderers ≠ []) (event : Event) :
    (scene.next event).crowd.wanderers.length = scene.crowd.wanderers.length := by
  cases event with
  | step fresh elapsed joined reported =>
    exact scene.crowd.length_step scene.relay fresh elapsed joined reported someone
  | tick order busy began ended => rfl

theorem inStep_next (inStep : scene.crowd.InStep scene.relay used steps)
    (someone : scene.crowd.wanderers ≠ []) {event : Event}
    (distinct : (used ++ event.drawn).Nodup) (finite : (scene.next event).crowd.Finite) :
    (scene.next event).crowd.InStep (scene.next event).relay (used ++ event.drawn) fun id =>
      steps id + if event.isStep = true ∧ id ∈ (scene.next event).crowd.ids then 1 else 0 := by
  cases event with
  | step fresh elapsed joined reported =>
    have unused : fresh ∉ used := fun listed =>
      List.disjoint_of_nodup_append distinct listed List.mem_cons_self
    simp only [Event.isStep, true_and]
    exact inStep.step someone unused finite
  | tick order busy began ended =>
    simp only [Event.isStep, Event.drawn, Bool.false_eq_true, false_and, if_false, Nat.add_zero,
      List.append_nil]
    exact inStep.tick order busy began ended

theorem inStep_after (inStep : scene.crowd.InStep scene.relay used steps)
    (someone : scene.crowd.wanderers ≠ []) {events : List Event}
    (distinct : (used ++ events.flatMap Event.drawn).Nodup) (finite : scene.StaysFinite events) :
    ((scene.after events).crowd.InStep (scene.after events).relay
      (used ++ events.flatMap Event.drawn) fun id => steps id + scene.stepsOf id events) ∧
    (scene.after events).crowd.wanderers.length = scene.crowd.wanderers.length := by
  induction events generalizing scene used steps with
  | nil =>
    rw [List.flatMap_nil, List.append_nil]
    exact ⟨inStep, rfl⟩
  | cons event rest ih =>
    rw [List.flatMap_cons, ← List.append_assoc] at distinct ⊢
    have now := inStep_next inStep someone (List.Nodup.of_append_left distinct) finite.1
    have size := length_next someone event
    have others : (scene.next event).crowd.wanderers ≠ [] := by
      rw [← List.length_pos_iff, size, List.length_pos_iff]
      exact someone
    obtain ⟨later, same⟩ := ih now others distinct finite.2
    refine ⟨?_, same.trans size⟩
    simp only [stepsOf, ← Nat.add_assoc]
    exact later

end Scene

/-- A crowd stays in step with its relay. Let a crowd spawn on a relay that nobody else visits,
one wanderer under each of some identifiers, and let it take steps, with any chance of an
exchange in each, while the relay makes ticks. Each packet has an instant of its own, and a draw
may be attempted any number of times. All identifiers that are drawn are different, and all
positions stay finite. Then the crowd is as large as at first, and its identifiers are
different. Each wanderer is connected in its own session and can be reached, the relay holds of
it the number of the steps that it has taken, modulo `2 ^ 16`, and has found none of its updates
stale; nor has it dropped one of anybody who has left. And if the relay makes a tick now, exactly
the crowd is connected afterwards. -/
theorem crowd_stays_in_step (config : Config) (fanout : Fanout) (transport : Loopback)
    {ids : List PeerId} (someone : ids ≠ []) (seed : UInt64) (attempts : Nat)
    (churn : BinaryFraction) (joined : PeerId → Instant) {events : List Scene.Event}
    (distinct : (ids ++ events.flatMap Scene.Event.drawn).Nodup)
    (finite : (Scene.opened config fanout transport ids seed attempts churn
      joined).StaysFinite events) :
    let start := Scene.opened config fanout transport ids seed attempts churn joined
    let scene := start.after events
    scene.crowd.wanderers.length = ids.length ∧ scene.crowd.ids.Nodup ∧
    (∀ wanderer ∈ scene.crowd.wanderers, ∃ peer,
      scene.relay.directory.find? wanderer.id = some peer ∧ peer.key = wanderer.key ∧
      scene.relay.transport.hasActiveAddress wanderer.id = true ∧
      peer.sender.latest = UInt16.ofNat (start.stepsOf wanderer.id events) ∧
      peer.sender.staleUpdates = 0) ∧
    scene.relay.metrics.staleUpdates = 0 ∧
    ∀ order busy began ended,
      ((scene.relay.tick order busy began ended).2.directory.toList.map Peer.id).Perm
        scene.crowd.ids := by
  intro start scene
  have different : ([] ++ ids).Nodup := List.Nodup.of_append_left distinct
  have spawned : start.crowd.InStep start.relay ids fun _ => 0 :=
    Crowd.InStep.joinAll (_, _) 
      (Crowd.InStep.opened config fanout transport seed attempts churn) different joined
  have size : start.crowd.wanderers.length = 0 + ids.length := Crowd.length_joinAll joined _ ids
  have somebody : start.crowd.wanderers ≠ [] := by
    rw [← List.length_pos_iff, size, Nat.zero_add, List.length_pos_iff]
    exact someone
  obtain ⟨inStep, same⟩ := Scene.inStep_after spawned somebody distinct finite
  refine ⟨?_, inStep.distinct, fun wanderer listed => ?_, inStep.dropped, inStep.ids_tick⟩
  · rw [same, size, Nat.zero_add]
  · obtain ⟨⟨peer, there, key, upTo⟩, reachable⟩ := inStep.served wanderer listed
    refine ⟨peer, there, key, reachable, ?_, upTo.timely⟩
    rw [upTo.latest, inStep.counted wanderer listed, Nat.zero_add]

/-- Two agents, of whom one leaves and another joins in each of two steps. The second of the two
stays; the relay has its second update, and after a tick it is connected with the newest of
all. -/
theorem crowd_in_step_after_exchanges :
    let third := PeerId.ofNat 3
    let fourth := PeerId.ofNat 4
    let start := Scene.opened Config.standard
      (Fanout.ofSeed Config.standard.fanoutSettings 0) (Loopback.new 0)
      [Relay.firstAgent, Relay.secondAgent] 0 256 (BinaryFraction.nearest 1 1) fun _ => 0
    let scene := start.after [.step third 1 0 fun _ => 0, .step fourth 1 1 fun _ => 1]
    (∃ peer, scene.relay.directory.find? Relay.secondAgent = some peer ∧
      peer.sender.latest = 2) ∧
    ((scene.relay.tick .ascending (fun _ => false) 0 0).2.directory.toList.map Peer.id).Perm
      [Relay.secondAgent, fourth] := by
  intro third fourth start scene
  obtain ⟨finite, remaining, twice⟩ :
      start.StaysFinite [.step third 1 0 fun _ => 0, .step fourth 1 1 fun _ => 1] ∧
        scene.crowd.ids = [Relay.secondAgent, fourth] ∧
        start.stepsOf Relay.secondAgent
          [.step third 1 0 fun _ => 0, .step fourth 1 1 fun _ => 1] = 2 := by
    decide +kernel
  simp only [scene, start] at finite remaining twice ⊢
  obtain ⟨-, -, served, -, connected⟩ := crowd_stays_in_step Config.standard
    (Fanout.ofSeed Config.standard.fanoutSettings 0) (Loopback.new 0)
    (List.cons_ne_nil Relay.firstAgent [Relay.secondAgent]) 0 256 (BinaryFraction.nearest 1 1)
    (fun _ => 0) (by decide) finite
  constructor
  · obtain ⟨wanderer, listed, own⟩ :=
      List.mem_map.mp (remaining ▸ List.mem_cons_self : Relay.secondAgent ∈ Crowd.ids _)
    obtain ⟨peer, there, -, -, latest, -⟩ := served wanderer listed
    rw [own] at there latest
    rw [twice] at latest
    exact ⟨peer, there, latest⟩
  · rw [← remaining]
    exact connected .ascending (fun _ => false) 0 0

end AvatarRelay
