/-
# Bubbles

A bubble silences two agents for each other or neither. The question is asked in the turn of
either of the two, at different moments of the pass; but both answers are worked out from
what was gathered before the first turn, and the comparison of the two boxes asks the same of
either side. So the answers agree even where boxes are malformed and comparisons of their
coordinates hold in neither direction.
-/

import Mathlib.Data.List.Nodup
import AvatarRelay.Proofs.Ignoring

namespace AvatarRelay

theorem Box.touches_comm (first second : Box) : first.touches second = second.touches first :=
  Bool.and_comm _ _

namespace Candidate

variable (first second : Candidate)

theorem muted_comm : first.muted second = second.muted first := by
  rw [muted, muted, Bubble.mutes, Bubble.mutes, Bubble.touch, Bubble.touch, Bool.or_comm,
    Box.touches_comm]

end Candidate

namespace Receiver

theorem contains_setMuted (receiver : Receiver) (sender : PeerId) (muted : Bool) (id : PeerId) :
    (receiver.setMuted sender muted).muted.contains id =
      if id = sender then muted else receiver.muted.contains id := by
  rw [Bool.eq_iff_iff]
  cases muted with
  | true =>
    rw [show (receiver.setMuted sender true).muted = receiver.muted.insert sender from rfl,
      PeerSet.contains_insert_iff]
    by_cases here : id = sender <;> simp [here]
  | false =>
    rw [show (receiver.setMuted sender false).muted = receiver.muted.erase sender from rfl,
      PeerSet.contains_erase_iff]
    by_cases here : id = sender <;> simp [here]

end Receiver

namespace Visit

variable (context : PassContext) (own other : Candidate) (visit : Visit)

/-- The visit is counted as one that the bubble silenced. -/
def silences : Bool :=
  (visit.next context own other).counters.mutedByBubble ≠ visit.counters.mutedByBubble

/-- The bubble is asked, once those who are kept apart or busy were left out. -/
def asksBubble : Bool :=
  !own.apart other && !context.busy other.id

theorem mutedByBubble_forward (visit : Visit) :
    (visit.forward context other).counters.mutedByBubble = visit.counters.mutedByBubble := by
  simp only [forward]
  cases Sequence.outOfOrder (visit.receiver.lastFrom other.id) other.sender.latest <;>
    cases Sequence.standing (visit.receiver.lastFrom other.id) other.sender.latest <;> rfl

theorem mutedByBubble_considered :
    (visit.considered context own other).counters.mutedByBubble =
      visit.counters.mutedByBubble := by
  unfold considered unmuted introduce
  cases other.avatar.identity <;> rfl

/-- Exactly those are silenced for whom the bubble is asked and says so. -/
theorem silences_eq :
    visit.silences context own other = (asksBubble context own other && own.muted other) := by
  rw [silences, next_eq, asksBubble]
  cases own.apart other with
  | true => simp
  | false =>
    cases context.busy other.id with
    | true => simp [contended]
    | false =>
      cases own.muted other with
      | true => simp [markMuted]
      | false =>
        simp only [Bool.false_eq_true, if_false]
        split
        · simp [mutedByBubble_forward, mutedByBubble_considered]
        · simp [mutedByBubble_considered]

/-- A visit keeps the set of silenced senders in step with the bubble's answer. -/
theorem muted_next_eq :
    (visit.next context own other).receiver.muted =
      if asksBubble context own other then
        (visit.receiver.setMuted other.id (own.muted other)).muted
      else visit.receiver.muted := by
  have considered : (visit.considered context own other).receiver.muted =
      visit.receiver.muted.erase other.id :=
    muted_introduce context other (visit.markMuted other.id false)
  rw [next_eq, asksBubble]
  cases own.apart other with
  | true => rfl
  | false =>
    cases context.busy other.id with
    | true => rfl
    | false =>
      cases own.muted other with
      | true => rfl
      | false =>
        simp only [Bool.false_eq_true, if_false]
        split
        · exact forward_keeps.2.2.1.trans considered
        · exact considered

theorem contains_muted_next_of_ne {id : PeerId} (elsewhere : id ≠ other.id) :
    (visit.next context own other).receiver.muted.contains id =
      visit.receiver.muted.contains id := by
  rw [muted_next_eq]
  split
  · rw [Receiver.contains_setMuted, if_neg elsewhere]
  · rfl

theorem contains_muted_foldl_of_not_mem {others : List Candidate} {id : PeerId}
    (absent : id ∉ others.map Candidate.id) :
    (others.foldl (next context own) visit).receiver.muted.contains id =
      visit.receiver.muted.contains id := by
  induction others generalizing visit with
  | nil => rfl
  | cons first rest ih =>
    rw [List.map_cons, List.mem_cons, not_or] at absent
    rw [List.foldl_cons, ih _ absent.2, contains_muted_next_of_ne _ _ _ _ absent.1]

/-- After its visits a receiver has those silenced about whom the bubble says so. -/
theorem contains_muted_foldl {others : List Candidate} {other : Candidate}
    (distinct : (others.map Candidate.id).Nodup) (listed : other ∈ others)
    (asked : asksBubble context own other = true) :
    (others.foldl (next context own) visit).receiver.muted.contains other.id =
      own.muted other := by
  obtain ⟨earlier, later, split⟩ := List.append_of_mem listed
  rw [split, List.foldl_append, List.foldl_cons,
    contains_muted_foldl_of_not_mem _ _ _ (Candidate.not_mem_later_of_split distinct split),
    muted_next_eq, if_pos asked, Receiver.contains_setMuted, if_pos rfl]

/-- Nothing is added to a turn that shows a silenced candidate. -/
theorem silent_next {id : PeerId} (silenced : other.id = id → own.muted other = true)
    {packet : OutboundPacket} (due : packet ∈ (visit.next context own other).identities)
    (about : packet.concerns id = true) : packet ∈ visit.identities := by
  rcases identities_next context own other visit due with before | ⟨-, identity, rfl⟩
  · exact before
  · have here : other.id = id := of_decide_eq_true about
    rw [next_eq, silenced here] at due
    split at due
    · exact due
    split at due
    · exact due
    · exact due

/-- Nothing of a silenced peer comes of the visits of a turn. -/
theorem silent_foldl {others : List Candidate} {id : PeerId}
    (silenced : ∀ other ∈ others, other.id = id → own.muted other = true)
    {packet : OutboundPacket} (due : packet ∈ (others.foldl (next context own) visit).identities)
    (about : packet.concerns id = true) : packet ∈ visit.identities := by
  induction others generalizing visit with
  | nil => exact due
  | cons first rest ih =>
    have now := ih _ (fun other listed => silenced other (List.mem_cons_of_mem _ listed)) due
    exact silent_next context own first visit (silenced first List.mem_cons_self) now about

@[simp]
theorem muted_settled (now : Instant) : (visit.settled now).muted = visit.receiver.muted := by
  unfold settled
  cases visit.farthest <;> cases visit.batch.isEmpty <;> rfl

end Visit

namespace Peer

def mutes (peer : Peer) (other : PeerId) : Bool :=
  peer.client.any (·.receiver.muted.contains other)

theorem remembers_of_mutes {peer : Peer} {other : PeerId} (silenced : peer.mutes other = true) :
    peer.remembers other = true := by
  obtain ⟨client, known, contained⟩ := (Option.any_eq_true _ _).mp silenced
  rw [remembers, known, Option.any_some, Receiver.remembers_iff]
  exact Or.inr (Or.inr contained)

theorem mutes_figured (busy : SessionKey → Bool) (now : Instant) (peer : Peer) (other : PeerId) :
    (peer.figured busy now).mutes other = peer.mutes other := by
  refine figured_keeps (·.mutes other) (fun peer => ?_) busy peer
  rw [mutes, client_mapClient, Option.any_map]
  rfl

end Peer

namespace Pass

variable (pass : Pass)

/-- The bubble leaves one peer out of what another receives: in the turn of the receiver, the
visit of the sender is counted as silenced. -/
def omits (receiver sender : PeerId) : Bool :=
  pass.audience.any fun own => own.id = receiver && !pass.busy own.id &&
    (pass.directory.client? own.id).any fun client =>
      pass.audience.any fun other => other.id = sender &&
        (pass.visitBefore own client.receiver other.id).silences pass.context own other

variable {pass}

/-- Nobody is left out by the bubble who does not take part, or for one who does not. -/
theorem takePart_of_omits {receiver sender : PeerId} (omitted : pass.omits receiver sender = true) :
    (∃ own ∈ pass.audience, own.id = receiver) ∧ ∃ other ∈ pass.audience, other.id = sender := by
  simp only [omits, List.any_eq_true, Bool.and_eq_true, decide_eq_true_eq,
    Option.any_eq_true] at omitted
  obtain ⟨own, present, ⟨here, -⟩, client, -, other, among, there, -⟩ := omitted
  exact ⟨⟨own, present, here⟩, other, among, there⟩

namespace Proper

variable (proper : pass.Proper)

include proper

/-- Whoever takes part under an identifier is the only one. -/
theorem eq_of_id_eq {first second : Candidate} (present : first ∈ pass.audience)
    (among : second ∈ pass.audience) (same : first.id = second.id) : first = second :=
  List.inj_on_of_nodup_map proper.nodup_audience present among same

/-- The bubble leaves out those about whom it is asked in a turn and says so. -/
theorem omits_eq {own other : Candidate} (present : own ∈ pass.audience)
    (among : other ∈ pass.audience) :
    pass.omits own.id other.id =
      (!pass.busy own.id && (Visit.asksBubble pass.context own other && own.muted other)) := by
  obtain ⟨peer, client, there, -, -, known, rfl⟩ := proper.mem_audience.mp present
  have looked : pass.directory.client? peer.id = some client := by
    rw [Directory.client?, there, Option.bind_some, known]
  rw [Bool.eq_iff_iff, Bool.and_eq_true]
  simp only [omits, List.any_eq_true, Bool.and_eq_true (_ && _), Bool.and_eq_true (decide _),
    decide_eq_true_eq, Option.any_eq_true, Visit.silences_eq]
  constructor
  · rintro ⟨own, presentToo, ⟨same, free⟩, data, -, candidate, amongToo, sameOther, silenced⟩
    obtain rfl := proper.eq_of_id_eq presentToo present same
    obtain rfl := proper.eq_of_id_eq amongToo among sameOther
    exact ⟨free, silenced⟩
  · rintro ⟨free, silenced⟩
    exact ⟨_, present, ⟨rfl, free⟩, client, looked, other, among, rfl, silenced⟩

/-- Who is left out by the bubble does not show in anything that the receiver is sent. -/
theorem silent_of_omits {own other : Candidate} (present : own ∈ pass.audience)
    (among : other ∈ pass.audience) (silenced : own.muted other = true) {packet : OutboundPacket}
    (sent : packet ∈ Parcel.packetsTo own.id pass.mail) : packet.concerns other.id = false := by
  rw [proper.packetsTo_mail present, packetsOf] at sent
  split at sent
  · cases sent
  split at sent
  · cases sent
  next client known =>
  rw [Bool.eq_false_iff]
  intro about
  rcases List.mem_append.mp sent with identity | batch
  · have before := Visit.silent_foldl pass.context own _ (fun candidate listed same => by
      rw [proper.eq_of_id_eq listed among same, silenced]) identity about
    cases before
  · split at batch
    · cases batch
    · rw [List.mem_singleton.mp batch] at about
      have contained := (proper.visit_of_present own client.receiver among).1
      rw [show (pass.visit own client.receiver).batch.contains other.id = true from about,
        Visit.forwards, silenced] at contained
      simp at contained

/-- After the pass a receiver that was served has those silenced about whom the bubble said
so. -/
theorem mutes_passed {peer : Peer} {client : Client} (known : peer.client = some client)
    (served : pass.serves peer = true) {other : Candidate} (among : other ∈ pass.audience)
    (asked : Visit.asksBubble pass.context (Candidate.of peer client) other = true) :
    (pass.passed peer).mutes other.id = (Candidate.of peer client).muted other := by
  obtain ⟨change, passed, changes⟩ := pass.passed_spec peer
  rw [passed, Peer.mutes, Peer.client_mapClient, known, Option.map_some, Option.any_some,
    (changes client).2, if_pos served, Visit.muted_settled]
  exact Visit.contains_muted_foldl _ _ _ proper.nodup_audience among asked

end Proper

end Pass

namespace Relay

variable (relay : Relay)

def mutes (id other : PeerId) : Bool :=
  (relay.directory.find? id).any (·.mutes other)

/-- A peer is connected as an agent with client data that is free, and can be reached. -/
def takesPart (busy : SessionKey → Bool) (id : PeerId) : Bool :=
  (relay.directory.find? id).any fun peer =>
    peer.reachable relay.transport && peer.client.isSome && !busy peer.key

def refuses (id other : PeerId) : Bool :=
  (relay.directory.find? id).any (·.isIgnoring other)

section Tick

variable {relay : Relay} (order : VisitOrder) (busy : SessionKey → Bool) (began ended : Instant)

/-- What a peer that takes part and stays brings to the pass of a tick. -/
theorem joins_pass (formed : relay.directory.WellFormed) {peer : Peer}
    (ready : relay.takesPart busy peer.id = true)
    (connected : relay.directory.find? peer.id = some peer)
    (stays : ((relay.timed began).processEvents order).directory.find? peer.id = some peer) :
    ∃ purged client, (relay.beforePass order busy began).directory.find? peer.id = some purged ∧
      purged.id = peer.id ∧ purged.client = some client ∧
      (∀ other, peer.isIgnoring other = false → purged.isIgnoring other = false) ∧
      (relay.nextPass order busy began).serves purged = true ∧
      (relay.nextPass order busy began).busy peer.id = false ∧
      Candidate.of purged client ∈ (relay.nextPass order busy began).audience := by
  have proper := relay.proper_nextPass order busy began formed
  rw [takesPart, connected, Option.any_some, Bool.and_eq_true, Bool.and_eq_true,
    Bool.not_eq_true'] at ready
  obtain ⟨⟨reachable, present⟩, unused⟩ := ready
  obtain ⟨agent, active⟩ := (Bool.and_eq_true _ _).mp reachable
  let purged := peer.purgedOfAll (busy peer.key)
    (dues ((relay.timed began).processEvents order).purges peer.key)
  have key : purged.key = peer.key := Peer.key_purgedOfAll _ _
  have own : purged.id = peer.id := Peer.id_eq_of_key key
  have carries : purged.role.carriesAvatar = true := by rw [Peer.role_purgedOfAll, agent]
  have found : (relay.beforePass order busy began).directory.find? peer.id = some purged := by
    rw [relay.find?_beforePass order busy began formed, stays]
    rfl
  have there : (relay.nextPass order busy began).directory.find? purged.id = some purged := by
    rw [own]
    exact found
  obtain ⟨client, known⟩ : ∃ client, purged.client = some client := by
    rw [← Option.isSome_iff_exists, Peer.isSome_client_purgedOfAll, present]
  have listed : purged.id ∈ (relay.nextPass order busy began).order :=
    List.mem_map_of_mem ((Directory.mem_agents _).mpr ⟨⟨_, there⟩, carries⟩)
  have reached : purged.reachable (relay.nextPass order busy began).transport = true := by
    have transport : (relay.nextPass order busy began).transport = _ :=
      (relay.settles_timed order began formed).delivered
    rw [Peer.reachable, carries, own, transport, Loopback.hasActiveAddress_deliverAll]
    exact active
  have free : (relay.nextPass order busy began).busy peer.id = false := by
    change ((relay.beforePass order busy began).directory.find? peer.id).any (busy ·.key) = false
    rw [found, Option.any_some, key, unused]
  refine ⟨purged, client, found, own, known, fun other hears => ?_, ?_, free,
    proper.mem_audience.mpr ⟨purged, client, there, listed, reached, known, rfl⟩⟩
  · rw [Bool.eq_false_iff, ne_eq, Peer.isIgnoring_purgedOfAll, hears]
    exact fun ignoring => Bool.false_ne_true ignoring.2
  · rw [Pass.serves, List.contains_iff_mem.mpr listed, own, free, reached]
    rfl

/-- After a tick a peer that stays has those silenced whom its pass has silenced. -/
theorem mutes_tick (formed : relay.directory.WellFormed) {id : PeerId} {purged : Peer}
    (found : (relay.beforePass order busy began).directory.find? id = some purged)
    (other : PeerId) :
    (relay.tick order busy began ended).2.mutes id other =
      ((relay.nextPass order busy began).passed purged).mutes other := by
  obtain ⟨reported, left⟩ := relay.find?_tick_passed order busy began ended formed
  rw [mutes, left, found, Option.map_some, Option.any_some]
  split
  · exact Peer.mutes_figured busy ended _ other
  · rfl

/-- What a peer that took part has silenced after a tick: another peer, which did not leave. -/
theorem stays_of_mutes (traced : relay.Traced) {id other : PeerId}
    (ready : relay.takesPart busy id = true)
    (silenced : (relay.tick order busy began ended).2.mutes id other = true) :
    other ≠ id ∧ ((relay.timed began).processEvents order).directory.find? other ≠ none := by
  have formed := traced.formed
  have settles := relay.settles_timed order began formed
  have after := traced.tick order busy began ended
  obtain ⟨change, maps, changes⟩ := relay.find?_tick_settled order busy began ended formed
  obtain ⟨holder, there, mutes⟩ := (Option.any_eq_true _ _).mp silenced
  obtain ⟨peer, stays, rfl⟩ := Option.map_eq_some_iff.mp ((maps id).symm.trans there)
  have own : (change peer).id = id := after.formed.keyed there
  have unused : busy (change peer).key = false := by
    obtain ⟨before, connected, free⟩ := (Option.any_eq_true _ _).mp ready
    obtain rfl := Option.some.inj (connected.symm.trans (settles.find?_before stays))
    rw [(changes before).1]
    simpa using ((Bool.and_eq_true _ _).mp free).2
  obtain ⟨apart, agent | owed⟩ := after.accounted (by rw [own, there])
    (Peer.remembers_of_mutes mutes)
  · refine ⟨by rwa [own] at apart, fun gone => ?_⟩
    obtain ⟨agent, here, -⟩ := agent
    rw [maps, gone] at here
    cases here
  · -- A session whose data is free is purged of all that it owes.
    obtain ⟨-, purges, nothing, -⟩ := relay.tick_keeps order busy began ended formed
    rw [nothing, owes_nil, purges, ← owes_nil, beforePass,
      owes_retryPurges busy _ (settles.wellFormed formed).keyed, lingers, unused] at owed
    cases owed.2

/-- A peer that leaves takes no part in the pass: it is neither left out by the bubble nor
silenced, and nobody for it. -/
theorem quiet_of_gone (traced : relay.Traced) {gone other : PeerId}
    (ready : relay.takesPart busy other = true)
    (left : ((relay.timed began).processEvents order).directory.find? gone = none) :
    ((relay.nextPass order busy began).omits gone other = false ∧
      (relay.nextPass order busy began).omits other gone = false) ∧
    (relay.tick order busy began ended).2.mutes gone other = false ∧
      (relay.tick order busy began ended).2.mutes other gone = false := by
  have formed := traced.formed
  have missing {own : Candidate} (present : own ∈ (relay.nextPass order busy began).audience) :
      own.id ≠ gone := by
    rintro rfl
    obtain ⟨peer, client, there, -, -, -, rfl⟩ :=
      (relay.proper_nextPass order busy began formed).mem_audience.mp present
    have found := relay.find?_beforePass order busy began formed peer.id
    rw [show ((relay.timed began).processEvents order).directory.find? peer.id = none
      from left] at found
    rw [show (relay.beforePass order busy began).directory.find? peer.id = some peer
      from there] at found
    cases found
  refine ⟨⟨?_, ?_⟩, ?_, ?_⟩
  · rw [Bool.eq_false_iff]
    intro omitted
    obtain ⟨⟨own, present, here⟩, -⟩ := Pass.takePart_of_omits omitted
    exact missing present here
  · rw [Bool.eq_false_iff]
    intro omitted
    obtain ⟨-, own, present, here⟩ := Pass.takePart_of_omits omitted
    exact missing present here
  · obtain ⟨change, maps, -⟩ := relay.find?_tick_settled order busy began ended formed
    rw [mutes, maps, left]
    rfl
  · rw [Bool.eq_false_iff]
    exact fun silenced => (stays_of_mutes order busy began ended traced ready silenced).2 left

/-- Nobody is left out by the bubble, or silenced, for itself. -/
theorem quiet_of_self (traced : relay.Traced) {id : PeerId}
    (ready : relay.takesPart busy id = true) :
    (relay.nextPass order busy began).omits id id = false ∧
      (relay.tick order busy began ended).2.mutes id id = false := by
  have proper := relay.proper_nextPass order busy began traced.formed
  constructor
  · rw [Bool.eq_false_iff]
    intro omitted
    obtain ⟨⟨own, present, rfl⟩, -⟩ := Pass.takePart_of_omits omitted
    have apart : own.apart own = true := by simp [Candidate.apart]
    rw [proper.omits_eq present present, Visit.asksBubble, apart] at omitted
    simp at omitted
  · rw [Bool.eq_false_iff]
    exact fun silenced => (stays_of_mutes order busy began ended traced ready silenced).1 rfl

/-- What holds of two peers that take part and stay, neither of which asked not to hear the
other: the bubble answers for both at once, and each keeps the answer. -/
theorem answered_of_stay (formed : relay.directory.WellFormed) {first second : Peer}
    (different : first.id ≠ second.id)
    (firstReady : relay.takesPart busy first.id = true)
    (secondReady : relay.takesPart busy second.id = true)
    (hears : first.isIgnoring second.id = false) (heard : second.isIgnoring first.id = false)
    (stays : ((relay.timed began).processEvents order).directory.find? first.id = some first)
    (staysToo : ((relay.timed began).processEvents order).directory.find? second.id = some second) :
    ∃ own other : Candidate, own ∈ (relay.nextPass order busy began).audience ∧
      other ∈ (relay.nextPass order busy began).audience ∧
      own.id = first.id ∧ other.id = second.id ∧
      (relay.nextPass order busy began).omits first.id second.id = own.muted other ∧
      (relay.tick order busy began ended).2.mutes first.id second.id = own.muted other := by
  have proper := relay.proper_nextPass order busy began formed
  have settles := relay.settles_timed order began formed
  obtain ⟨one, client, found, sameId, known, kept, served, free, present⟩ :=
    joins_pass order busy began formed firstReady (settles.find?_before stays) stays
  obtain ⟨other, data, -, sameOther, -, keptToo, -, freeToo, among⟩ :=
    joins_pass order busy began formed secondReady (settles.find?_before staysToo) staysToo
  have ownId : (Candidate.of one client).id = first.id := sameId
  have otherId : (Candidate.of other data).id = second.id := sameOther
  have together : (Candidate.of one client).apart (Candidate.of other data) = false := by
    rw [Candidate.apart_eq_false_iff, sameId, sameOther]
    exact ⟨different.symm, kept _ hears, keptToo _ heard⟩
  have asked : Visit.asksBubble (relay.nextPass order busy began).context (Candidate.of one client)
      (Candidate.of other data) = true := by
    rw [Visit.asksBubble, together, otherId,
      show (relay.nextPass order busy began).context.busy second.id = false from freeToo]
    rfl
  refine ⟨_, _, present, among, ownId, otherId, ?_, ?_⟩
  · rw [← ownId, ← otherId, proper.omits_eq present among, asked, ownId, free]
    rfl
  · rw [mutes_tick order busy began ended formed found, ← otherId]
    exact proper.mutes_passed known served among asked

end Tick

/-- The bubble is symmetric. Take any state that can be reached, and two agents that are
connected, can be reached, and have client data that is free, neither of which asked not to
hear the other. In the pass of a tick the bubble leaves out one of them for the other or
neither, and then nothing that is sent to one shows the other; and after the tick each has
the other silenced exactly if it was left out. -/
theorem bubbles_symmetric (config : Config) (fanout : Fanout) (operations : List Operation)
    (order : VisitOrder) (busy : SessionKey → Bool) (began ended : Instant) (first second : PeerId)
    (firstReady : ((opened config fanout).run operations).takesPart busy first = true)
    (secondReady : ((opened config fanout).run operations).takesPart busy second = true)
    (hears : ((opened config fanout).run operations).refuses first second = false)
    (heard : ((opened config fanout).run operations).refuses second first = false) :
    let relay := (opened config fanout).run operations
    let pass := relay.nextPass order busy began
    let after := (relay.tick order busy began ended).2
    pass.omits first second = pass.omits second first ∧
      after.mutes first second = after.mutes second first ∧
      after.mutes first second = pass.omits first second ∧
      (pass.omits first second = true → ∀ packet,
        (packet ∈ Parcel.packetsTo first pass.mail → packet.concerns second = false) ∧
        (packet ∈ Parcel.packetsTo second pass.mail → packet.concerns first = false)) := by
  intro relay pass after
  have traced : relay.Traced := (Traced.opened config fanout).run operations
  have formed := traced.formed
  have proper := relay.proper_nextPass order busy began formed
  have settles := relay.settles_timed order began formed
  cases stays : ((relay.timed began).processEvents order).directory.find? first with
  | none =>
    obtain ⟨⟨omits, omitsToo⟩, mutes, mutesToo⟩ :=
      quiet_of_gone order busy began ended traced secondReady stays
    exact ⟨omits.trans omitsToo.symm, mutes.trans mutesToo.symm, mutes.trans omits.symm,
      fun omitted => absurd (omits.symm.trans omitted) Bool.false_ne_true⟩
  | some one =>
    cases staysToo : ((relay.timed began).processEvents order).directory.find? second with
    | none =>
      obtain ⟨⟨omitsToo, omits⟩, mutesToo, mutes⟩ :=
        quiet_of_gone order busy began ended traced firstReady staysToo
      exact ⟨omits.trans omitsToo.symm, mutes.trans mutesToo.symm, mutes.trans omits.symm,
        fun omitted => absurd (omits.symm.trans omitted) Bool.false_ne_true⟩
    | some other =>
      have own : one.id = first := (settles.wellFormed formed).keyed stays
      have ownToo : other.id = second := (settles.wellFormed formed).keyed staysToo
      subst own
      subst ownToo
      by_cases same : one.id = other.id
      · obtain ⟨omits, mutes⟩ := quiet_of_self order busy began ended traced firstReady
        rw [← same]
        exact ⟨rfl, rfl, mutes.trans omits.symm,
          fun omitted => absurd (omits.symm.trans omitted) Bool.false_ne_true⟩
      · have connected := settles.find?_before stays
        have connectedToo := settles.find?_before staysToo
        rw [refuses, show relay.directory.find? one.id = some one from connected] at hears
        rw [refuses, show relay.directory.find? other.id = some other from connectedToo] at heard
        obtain ⟨left, right, present, among, leftId, rightId, omits, mutes⟩ :=
          answered_of_stay order busy began ended formed same firstReady secondReady hears heard
            stays staysToo
        obtain ⟨right', left', amongToo, presentToo, rightId', leftId', omitsToo, mutesToo⟩ :=
          answered_of_stay order busy began ended formed (Ne.symm same) secondReady firstReady heard
            hears staysToo stays
        obtain rfl := proper.eq_of_id_eq presentToo present (leftId'.trans leftId.symm)
        obtain rfl := proper.eq_of_id_eq amongToo among (rightId'.trans rightId.symm)
        have silences := left'.muted_comm right'
        refine ⟨?_, ?_, mutes.trans omits.symm, fun omitted packet => ⟨fun sent => ?_,
          fun sent => ?_⟩⟩
        · exact omits.trans (silences.trans omitsToo.symm)
        · exact mutes.trans (silences.trans mutesToo.symm)
        · rw [← rightId]
          exact proper.silent_of_omits present among (omits.symm.trans omitted)
            (by rw [leftId]; exact sent)
        · rw [← leftId]
          exact proper.silent_of_omits among present
            (silences.symm.trans (omits.symm.trans omitted)) (by rw [rightId]; exact sent)

/-- One of two agents at the same place turns its bubble on: the next tick silences each for
the other. -/
theorem bubbles_among_two :
    let bubble := InboundPacket.format.write (.radiusIgnore true)
    let relay := (opened Config.standard (Fanout.ofSeed Config.standard.fanoutSettings 0)).run
      (introduction ++ [.receive firstAgent bubble 0])
    let after := (relay.tick .ascending (fun _ => false) 0 0).2
    after.mutes firstAgent secondAgent = true ∧ after.mutes secondAgent firstAgent = true := by
  intro bubble relay after
  obtain ⟨-, mutes, -, -⟩ := bubbles_symmetric Config.standard
    (Fanout.ofSeed Config.standard.fanoutSettings 0)
    (introduction ++ [.receive firstAgent bubble 0]) .ascending (fun _ => false) 0 0
    firstAgent secondAgent (by decide +kernel) (by decide +kernel) (by decide +kernel)
    (by decide +kernel)
  have silenced : after.mutes firstAgent secondAgent = true := by decide +kernel
  exact ⟨silenced, by rw [← mutes, silenced]⟩

end Relay

end AvatarRelay
