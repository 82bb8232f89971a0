/-
# Requests to ignore

How long a peer stays ignored. Purges go by identifiers: when a session of a peer ends,
others stop ignoring that identifier, whichever session of it they had in mind. So a
request holds for as long as both sessions last if no purge of the named peer is owed when
it is made; and if one is owed, from a session of that peer before the present one, the
next tick undoes the request.
-/

import AvatarRelay.Proofs.Changes
import AvatarRelay.Proofs.Memory

namespace AvatarRelay

namespace OutboundPacket

/-- The packet shows some avatar, by a segment or by its identity. -/
def concerns (packet : OutboundPacket) (avatar : PeerId) : Bool :=
  match packet with
  | bulkAvatarData batch => batch.contains avatar
  | avatarIdentity shown _ => shown = avatar
  | killAvatar .. => false

end OutboundPacket

namespace Peer

variable {peer : Peer} {other : PeerId}

theorem isIgnoring_ignore (named : PeerId) :
    (peer.ignore named).isIgnoring other = true ↔
      other = named ∧ other ≠ peer.id ∨ peer.isIgnoring other = true := by
  unfold ignore
  split
  · next own =>
    constructor
    · exact Or.inr
    · rintro (⟨rfl, apart⟩ | before)
      · exact absurd own apart
      · exact before
  · next apart =>
    refine (PeerSet.contains_insert_iff _ _ _).trans (or_congr_left ?_)
    constructor
    · rintro rfl
      exact ⟨rfl, apart⟩
    · exact And.left

theorem isIgnoring_setIgnored_true (others : List PeerId) :
    (peer.setIgnored others true).isIgnoring other = true ↔
      other ∈ others ∧ other ≠ peer.id ∨ peer.isIgnoring other = true := by
  induction others generalizing peer with
  | nil => simp [setIgnored]
  | cons first rest ih =>
    have own : (peer.ignore first).id = peer.id := by
      unfold ignore
      split <;> rfl
    have stepped : peer.setIgnored (first :: rest) true =
        (peer.ignore first).setIgnored rest true := rfl
    rw [stepped, ih, own, isIgnoring_ignore, List.mem_cons, or_and_right, ← or_assoc]
    exact or_congr_left or_comm

theorem isIgnoring_setIgnored_false (others : List PeerId) :
    (peer.setIgnored others false).isIgnoring other = true ↔
      other ∉ others ∧ peer.isIgnoring other = true := by
  induction others generalizing peer with
  | nil => simp [setIgnored]
  | cons first rest ih =>
    have once : (peer.unignore first).isIgnoring other = true ↔
        other ≠ first ∧ peer.isIgnoring other = true := PeerSet.contains_erase_iff _ _ _
    have stepped : peer.setIgnored (first :: rest) false =
        (peer.unignore first).setIgnored rest false := rfl
    rw [stepped, ih, once, List.mem_cons, not_or, and_assoc, and_left_comm]

/-- Only a request to hear a peer again ends its being ignored. -/
theorem isIgnoring_sending {bounds : ScaleBounds} {packet : InboundPacket} {bytes : Nat}
    {now : Instant} (ignoring : peer.isIgnoring other = true)
    (quiet : ∀ others, packet = .nodeIgnore others false → other ∉ others) :
    (peer.sending bounds packet bytes now).isIgnoring other = true := by
  cases packet with
  | avatarData number pose =>
    rw [sending]
    cases peer.client? bounds <;> exact ignoring
  | avatarIdentity identity =>
    rw [sending]
    cases peer.client? bounds <;> exact ignoring
  | killAvatar => exact ignoring
  | nodeIgnore others enabled =>
    cases enabled with
    | true => exact (isIgnoring_setIgnored_true others).mpr (Or.inr ignoring)
    | false => exact (isIgnoring_setIgnored_false others).mpr ⟨quiet others rfl, ignoring⟩
  | radiusIgnore enabled => exact ignoring

end Peer

/-- Whom a packet of a pass shows takes part in it, and neither of the two ignores the
other. -/
theorem Pass.Proper.heard_of_concerns {pass : Pass} (proper : pass.Proper) {receiver : PeerId}
    {packet : OutboundPacket} (sent : ⟨receiver, packet⟩ ∈ pass.mail) {avatar : PeerId}
    (shown : packet.concerns avatar = true) :
    ∃ own other, pass.directory.find? receiver = some own ∧
      pass.directory.find? avatar = some other ∧ own.isIgnoring avatar = false ∧
        other.isIgnoring receiver = false := by
  obtain ⟨own, present, client, rfl, due⟩ := visit_of_mail sent
  have heard : ∃ other ∈ pass.audience, other.id = avatar ∧ own.apart other = false := by
    rcases List.mem_append.mp due with identity | batch
    · obtain ⟨other, among, heard, value, same⟩ :=
        (Visit.identities_foldl _ _ _ identity).resolve_left List.not_mem_nil
      rw [show packet = _ from same] at shown
      exact ⟨other, among, of_decide_eq_true shown, heard⟩
    · split at batch
      · cases batch
      · rw [show packet = _ from List.mem_singleton.mp batch] at shown
        obtain ⟨segment, listed, sender⟩ := List.any_eq_true.mp shown
        obtain ⟨other, among, forwarded, rfl⟩ := (proper.mem_batch _ _).mp listed
        exact ⟨other, among, of_decide_eq_true sender,
          ((Visit.forwards_iff _ _ _ _).mp forwarded).1⟩
  obtain ⟨other, among, rfl, heard⟩ := heard
  obtain ⟨peer, _, there, -, -, -, rfl⟩ := proper.mem_audience.mp present
  obtain ⟨second, _, here, -, -, -, rfl⟩ := proper.mem_audience.mp among
  obtain ⟨-, hears, heardBack⟩ := Candidate.apart_eq_false_iff.mp heard
  exact ⟨peer, second, there, here, hears, heardBack⟩

namespace Relay

def rehears (holder named : PeerId) : Operation → Bool
  | .receive sender bytes _ =>
    match InboundPacket.format.decode bytes with
    | .ok (.nodeIgnore others false) => sender = holder && others.contains named
    | _ => false
  | _ => false

/-- As long as both sessions are connected, the one ignores the other and owes no purge of
it. -/
structure Shuns (relay : Relay) (holder named : SessionKey) : Prop where
  formed : relay.directory.WellFormed
  begun : holder.session ≤ relay.directory.lastSession
  namedBegun : named.session ≤ relay.directory.lastSession
  apart : holder.id ≠ named.id
  ignores : ∀ {peer other}, relay.directory.findSession? holder = some peer →
    relay.directory.findSession? named = some other →
      peer.isIgnoring named.id = true ∧ ¬ relay.Owes relay.events.pending holder named.id

variable {relay : Relay} {holder named : SessionKey}

/-- Only a request to hear a peer again ends its being ignored. -/
theorem isIgnoring_heard {sender : PeerId} {bytes : Bytes} {now : Instant} {peer : Peer}
    {other : PeerId} (ignoring : peer.isIgnoring other = true)
    (quiet : rehears peer.id other (.receive sender bytes now) = false) :
    (relay.heard sender bytes now peer).isIgnoring other = true := by
  unfold heard
  split
  · next packet decoded =>
    split
    · next own =>
      apply Peer.isIgnoring_sending ignoring
      rintro others rfl listed
      simp [rehears, decoded, own, listed] at quiet
    · exact ignoring
  · exact ignoring

/-- A purge that was not owed before a tick is not made in it, unless the tick removes the
peer. -/
theorem not_due (formed : relay.directory.WellFormed) {order : VisitOrder} (began : Instant)
    {peer : Peer} {departed : PeerId}
    (stays : ((relay.timed began).processEvents order).directory.find? peer.id = some peer)
    (present : ((relay.timed began).processEvents order).directory.find? departed ≠ none)
    (apart : peer.id ≠ departed)
    (unowed : ¬ relay.Owes relay.events.pending peer.key departed) :
    departed ∉ dues ((relay.timed began).processEvents order).purges peer.key := by
  intro due
  have owed := ((relay.settles_timed order began formed).owed stays apart).mp (owes_nil.mpr due)
  exact owed.elim unowed fun gone => present gone.2

namespace Shuns

/-- A session that stays comes to owe no purge of another one that stays. -/
theorem unowed_apply (shuns : relay.Shuns holder named) {operation : Operation}
    {before beforeNamed : Peer}
    (there : relay.directory.findSession? holder = some before)
    (present : relay.directory.findSession? named = some beforeNamed)
    {peer other : Peer} (changes : relay.Changes before peer operation)
    (changesNamed : relay.Changes beforeNamed other operation)
    (foundNamed : (relay.apply operation).directory.findSession? named = some other) :
    ¬ (relay.apply operation).Owes (relay.apply operation).events.pending holder named.id := by
  have formed := shuns.formed
  have unowed := (shuns.ignores there present).2
  have steadily (steady : relay.Steady (relay.apply operation)) :
      ¬ (relay.apply operation).Owes (relay.apply operation).events.pending holder named.id := by
    rw [steady.owes_iff]
    exact unowed
  cases operation with
  | receive sender bytes now => exact steadily (relay.steady_receive formed sender bytes now)
  | disconnect key => exact steadily (relay.steady_push rfl)
  | rewire transport => exact steadily (Steady.of_eq rfl rfl rfl)
  | connect id role =>
    intro owed
    rcases (relay.owes_connect formed id role _ _).mp owed with owed | ⟨own, -⟩
    · exact unowed owed
    · -- The session of the named peer would be the one that has just begun.
      obtain ⟨found, session⟩ := (Directory.findSession?_eq_some_iff _).mp foundNamed
      rw [apply, find?_connect, if_pos own] at found
      cases found
      have late : relay.directory.lastSession + 1 = named.session := session
      have early := shuns.namedBegun
      omega
  | tick order busy began ended =>
    obtain ⟨stays, -⟩ := changes
    obtain ⟨staysNamed, -⟩ := changesNamed
    have own := formed.keyed.key_of_findSession? there
    have ownNamed := formed.keyed.key_of_findSession? present
    have settled := (relay.settles_timed order began formed).wellFormed formed
    obtain ⟨-, samePurges, nothing, -⟩ := relay.tick_keeps order busy began ended formed
    subst own ownNamed
    intro owed
    rw [apply, nothing, owes_nil, samePurges, ← owes_nil] at owed
    have remaining := ((owes_retryPurges busy _ settled.keyed _ _).mp owed).1
    refine not_due formed began stays ?_ shuns.apart unowed (owes_nil.mp remaining)
    exact Option.ne_none_iff_exists'.mpr ⟨_, staysNamed⟩

/-- Nothing but a request to hear the named peer again undoes what holds of the two. -/
theorem apply (shuns : relay.Shuns holder named) {operation : Operation}
    (quiet : rehears holder.id named.id operation = false) :
    (relay.apply operation).Shuns holder named where
  formed := wellFormed_apply shuns.formed operation
  begun := Nat.le_trans shuns.begun (lastSession_apply shuns.formed operation)
  namedBegun := Nat.le_trans shuns.namedBegun (lastSession_apply shuns.formed operation)
  apart := shuns.apart
  ignores {peer other} found foundNamed := by
    have formed := shuns.formed
    obtain ⟨before, there, changes⟩ := findSession?_apply formed shuns.begun found
    obtain ⟨beforeNamed, present, changesNamed⟩ :=
      findSession?_apply formed shuns.namedBegun foundNamed
    obtain ⟨ignoring, unowed⟩ := shuns.ignores there present
    refine ⟨?_, shuns.unowed_apply there present changes changesNamed foundNamed⟩
    have own := formed.keyed.key_of_findSession? there
    cases operation with
    | receive sender bytes now =>
      rw [show peer = _ from changes]
      exact isIgnoring_heard ignoring (by rwa [show before.id = holder.id from
        congrArg SessionKey.id own])
    | tick order busy began ended =>
      obtain ⟨stays, reported, rfl⟩ := changes
      obtain ⟨staysNamed, -⟩ := changesNamed
      have ownNamed := formed.keyed.key_of_findSession? present
      subst own ownNamed
      refine (relay.isIgnoring_ticked order busy began ended reported before _).mpr ⟨?_, ignoring⟩
      refine not_due formed began stays ?_ shuns.apart unowed
      exact Option.ne_none_iff_exists'.mpr ⟨_, staysNamed⟩
    | connect _ _ | disconnect _ | rewire _ =>
      rw [show peer = before from changes]
      exact ignoring

theorem run (shuns : relay.Shuns holder named) {operations : List Operation}
    (quiet : ∀ operation ∈ operations, rehears holder.id named.id operation = false) :
    (relay.run operations).Shuns holder named := by
  induction operations generalizing relay with
  | nil => exact shuns
  | cons operation rest ih =>
    obtain ⟨quietFirst, quietRest⟩ := List.forall_mem_cons.mp quiet
    exact ih (shuns.apply quietFirst) quietRest

/-- If both sessions are left when the pass of a tick begins, the one still ignores the
other. -/
theorem ignores_beforePass (shuns : relay.Shuns holder named) {peer other : Peer}
    (connected : relay.directory.findSession? holder = some peer)
    (present : relay.directory.findSession? named = some other) {order : VisitOrder}
    {busy : SessionKey → Bool} {began : Instant} {own second : Peer}
    (there : (relay.beforePass order busy began).directory.find? holder.id = some own)
    (here : (relay.beforePass order busy began).directory.find? named.id = some second) :
    own.isIgnoring named.id = true := by
  have formed := shuns.formed
  obtain ⟨ignoring, unowed⟩ := shuns.ignores connected present
  obtain ⟨before, found, stays, rfl⟩ := relay.purged_beforePass order busy began formed there
  obtain ⟨_, -, staysNamed, -⟩ := relay.purged_beforePass order busy began formed here
  have same : before = peer := Option.some.inj
    (found.symm.trans ((Directory.findSession?_eq_some_iff _).mp connected).1)
  have key := formed.keyed.key_of_findSession? connected
  subst same key
  refine (Peer.isIgnoring_purgedOfAll _ _ _).mpr ⟨?_, ignoring⟩
  refine not_due formed began stays ?_ shuns.apart unowed
  exact Option.ne_none_iff_exists'.mpr ⟨_, staysNamed⟩

/-- A tick shows neither of the two sessions the other one. -/
theorem silent (shuns : relay.Shuns holder named) {peer other : Peer}
    (connected : relay.directory.findSession? holder = some peer)
    (present : relay.directory.findSession? named = some other) (order : VisitOrder)
    (busy : SessionKey → Bool) (began : Instant) (packet : OutboundPacket) :
    (⟨holder.id, packet⟩ ∈ relay.tickMail order busy began → packet.concerns named.id = false) ∧
      (⟨named.id, packet⟩ ∈ relay.tickMail order busy began →
        packet.concerns holder.id = false) := by
  have proper := relay.proper_nextPass order busy began shuns.formed
  have farewell {receiver avatar : PeerId}
      (sent : ⟨receiver, packet⟩ ∈ (relay.timed began).departureMail order) :
      packet.concerns avatar = false := by
    obtain ⟨gone, reason, rfl⟩ := (relay.settles_timed order began shuns.formed).kills _ sent
    rfl
  constructor
  · intro sent
    rcases List.mem_append.mp sent with early | late
    · exact farewell early
    · rw [Bool.eq_false_iff]
      intro shown
      obtain ⟨own, second, there, here, hears, -⟩ := proper.heard_of_concerns late shown
      rw [shuns.ignores_beforePass connected present there here] at hears
      cases hears
  · intro sent
    rcases List.mem_append.mp sent with early | late
    · exact farewell early
    · rw [Bool.eq_false_iff]
      intro shown
      obtain ⟨second, own, here, there, -, hears⟩ := proper.heard_of_concerns late shown
      rw [shuns.ignores_beforePass connected present there here] at hears
      cases hears

end Shuns

section Request

variable (formed : relay.directory.WellFormed) {peer other : Peer}
  (connected : relay.directory.find? peer.id = some peer) {bytes : Bytes} {others : List PeerId}
  (request : InboundPacket.format.decode bytes = .ok (.nodeIgnore others true))
  (listed : other.id ∈ others) (apart : other.id ≠ peer.id) (now : Instant)

include formed connected request

/-- A request that is taken in changes the peer that asks, and nothing of what is owed. -/
theorem find?_request :
    (relay.apply (.receive peer.id bytes now)).directory.find? peer.id =
      some (peer.setIgnored others true) := by
  rw [apply, find?_receive formed, connected, Option.map_some]
  simp only [heard, request, if_true, Peer.sending]

include apart

/-- A tick undoes a request to ignore a peer that a purge is owed of. -/
theorem undone_of_request (owed : relay.Owes relay.events.pending peer.key other.id)
    (order : VisitOrder) (busy : SessionKey → Bool) (began ended : Instant) {after : Peer}
    (found : ((relay.apply (.receive peer.id bytes now)).tick order busy began
      ended).2.directory.find? peer.id = some after) : after.isIgnoring other.id = false := by
  have formedNext := wellFormed_apply formed (.receive peer.id bytes now)
  obtain ⟨reported, maps⟩ := find?_ticked _ order busy began ended formedNext
  rw [maps, Option.map_eq_some_iff] at found
  obtain ⟨before, stays, rfl⟩ := found
  have settles := (relay.apply (.receive peer.id bytes now)).settles_timed order began formedNext
  have asked : peer.setIgnored others true = before := Option.some.inj
    ((find?_request formed connected request now).symm.trans (settles.find?_before stays))
  have key : before.key = peer.key := by rw [← asked, (peer.setIgnored_keeps _ _).1]
  have same : before.id = peer.id := Peer.id_eq_of_key key
  have due : other.id ∈ dues (((relay.apply (.receive peer.id bytes now)).timed
      began).processEvents order).purges before.key := by
    refine owes_nil.mp ((settles.owed (by rwa [same]) (by rwa [same, ne_comm])).mpr (Or.inl ?_))
    rw [key]
    exact ((relay.steady_receive formed peer.id bytes now).owes_iff _ _).mpr owed
  rw [Bool.eq_false_iff]
  intro ignoring
  exact ((isIgnoring_ticked _ order busy began ended reported before _).mp ignoring).1 due

include listed

/-- A request to ignore a connected peer holds at first, unless a purge of that peer is
owed. -/
theorem shuns_of_request (present : relay.directory.find? other.id = some other)
    (unowed : ¬ relay.Owes relay.events.pending peer.key other.id) :
    (relay.apply (.receive peer.id bytes now)).Shuns peer.key other.key where
  formed := wellFormed_apply formed _
  begun := Nat.le_trans (formed.numbered connected) (lastSession_apply formed _)
  namedBegun := Nat.le_trans (formed.numbered present) (lastSession_apply formed _)
  apart := Ne.symm apart
  ignores {after _} found _ := by
    have asked : peer.setIgnored others true = after := Option.some.inj
      ((find?_request formed connected request now).symm.trans
        ((Directory.findSession?_eq_some_iff _).mp found).1)
    constructor
    · rw [← asked]
      exact (Peer.isIgnoring_setIgnored_true others).mpr (Or.inl ⟨listed, apart⟩)
    · exact mt ((relay.steady_receive formed peer.id bytes now).owes_iff _ _).mp unowed

end Request

end Relay

/-- How long a request to ignore a peer holds. Suppose that in some run one peer asks to
ignore another that is connected. If no purge of that peer is owed by the one who asks, then
for as long as both sessions are connected and there is no request to hear the peer again,
no tick shows either of the two the other one. If a purge is owed, left behind by an earlier
session of that peer, the next tick undoes the request. -/
theorem ignored_of_run (config : Config) (fanout : Fanout) (earlier : List Relay.Operation)
    {holder named : Peer}
    (connected : ((Relay.opened config fanout).run earlier).directory.find? holder.id =
      some holder)
    (present : ((Relay.opened config fanout).run earlier).directory.find? named.id = some named)
    {bytes : Bytes} {others : List PeerId}
    (request : InboundPacket.format.decode bytes = .ok (.nodeIgnore others true))
    (listed : named.id ∈ others) (apart : named.id ≠ holder.id) (now : Instant) :
    let relay := (Relay.opened config fanout).run earlier
    let requested := relay.apply (.receive holder.id bytes now)
    (¬ relay.Owes relay.events.pending holder.key named.id →
      ∀ later, (∀ operation ∈ later, Relay.rehears holder.id named.id operation = false) →
        let last := requested.run later
        last.directory.findSession? holder.key ≠ none →
        last.directory.findSession? named.key ≠ none →
        ∀ order busy began ended,
          (last.tick order busy began ended).2.transport =
            last.transport.deliverAll (last.tickMail order busy began) ∧
          ∀ packet,
            (⟨holder.id, packet⟩ ∈ last.tickMail order busy began →
              packet.concerns named.id = false) ∧
            (⟨named.id, packet⟩ ∈ last.tickMail order busy began →
              packet.concerns holder.id = false)) ∧
    (relay.Owes relay.events.pending holder.key named.id →
      ∀ order busy began ended peer,
        (requested.tick order busy began ended).2.directory.find? holder.id = some peer →
          peer.isIgnoring named.id = false) := by
  intro relay requested
  have formed : relay.directory.WellFormed :=
    ((Relay.Traced.opened config fanout).run earlier).formed
  constructor
  · intro unowed later quiet last holds staying order busy began ended
    have shuns : last.Shuns holder.key named.key :=
      (Relay.shuns_of_request formed connected request listed apart now present unowed).run
        quiet
    obtain ⟨peer, found⟩ := Option.ne_none_iff_exists'.mp holds
    obtain ⟨other, foundNamed⟩ := Option.ne_none_iff_exists'.mp staying
    exact ⟨(last.tick_keeps order busy began ended shuns.formed).1,
      shuns.silent found foundNamed order busy began⟩
  · intro owed order busy began ended peer found
    exact Relay.undone_of_request formed connected request apart now owed order busy began ended
      found

/-- After one of two agents has asked to ignore the other, a tick shows neither of them the
other. -/
theorem ignored_after_introduction :
    let start := Relay.opened Config.standard (Fanout.ofSeed Config.standard.fanoutSettings 0)
    let request := InboundPacket.format.write (.nodeIgnore [Relay.secondAgent] true)
    let relay := start.run (Relay.introduction ++ [.receive Relay.firstAgent request 0])
    ∀ packet,
      (⟨Relay.firstAgent, packet⟩ ∈ relay.tickMail .ascending (fun _ => false) 0 →
        packet.concerns Relay.secondAgent = false) ∧
      (⟨Relay.secondAgent, packet⟩ ∈ relay.tickMail .ascending (fun _ => false) 0 →
        packet.concerns Relay.firstAgent = false) := by
  intro start request relay
  let before := start.run Relay.introduction
  have run : relay = before.apply (.receive Relay.firstAgent request 0) := List.foldl_append
  have found : (before.directory.find? Relay.firstAgent).map Peer.key =
      some ⟨Relay.firstAgent, 1⟩ := by decide +kernel
  have foundNamed : (before.directory.find? Relay.secondAgent).map Peer.key =
      some ⟨Relay.secondAgent, 2⟩ := by decide +kernel
  have quiet : before.purges = [] ∧ before.events.pending = [] := by decide +kernel
  have stays : relay.directory.findSession? ⟨Relay.firstAgent, 1⟩ ≠ none ∧
      relay.directory.findSession? ⟨Relay.secondAgent, 2⟩ ≠ none := by decide +kernel
  obtain ⟨holder, connected, key⟩ := Option.map_eq_some_iff.mp found
  obtain ⟨named, present, keyNamed⟩ := Option.map_eq_some_iff.mp foundNamed
  have own : holder.id = Relay.firstAgent := congrArg SessionKey.id key
  have other : named.id = Relay.secondAgent := congrArg SessionKey.id keyNamed
  rw [← own] at connected
  rw [← other] at present
  have unowed : ¬ before.Owes before.events.pending holder.key named.id := by
    rw [quiet.2, Relay.owes_nil, quiet.1]
    exact List.not_mem_nil
  have decoded : InboundPacket.format.decode request =
      .ok (.nodeIgnore [Relay.secondAgent] true) := by decide +kernel
  obtain ⟨holds, -⟩ := ignored_of_run _ _ Relay.introduction connected present decoded
    (List.mem_singleton.mpr other) (by rw [own, other]; decide) 0
  have silent := (holds unowed [] (by simp) (by rw [key, own, ← run]; exact stays.1)
    (by rw [keyNamed, own, ← run]; exact stays.2) .ascending (fun _ => false) 0 0).2
  rw [own, other, ← run] at silent
  exact silent

end AvatarRelay
