/-
# What is new to a receiver

An admitted sender is held back if nothing has been accepted from its session since it was
last forwarded to the receiver. The relay tells this from two numbers alone, so beside a run
stands the list of the numbers that were accepted since. Each of them differs from the one
before it, and as long as they do not go all the way round, the last one differs from the
number that was forwarded. Number zero is an exception: a receiver that was sent it counts
as having been sent nothing, and is sent the same update again.
-/

import AvatarRelay.Proofs.Changes
import AvatarRelay.Proofs.Fidelity
import AvatarRelay.Proofs.Numbers
import AvatarRelay.Proofs.Sessions

namespace AvatarRelay

def Peer.acceptedNumber (peer : Peer) (bounds : ScaleBounds) (packet : InboundPacket)
    (bytes : Nat) (now : Instant) : Option SequenceNumber :=
  match packet with
  | .avatarData number _ => (peer.acceptedPose bounds packet bytes now).map fun _ => number
  | _ => none

namespace Relay

/-- The number of the update that an operation has accepted from a session, if it does. -/
def acceptedNumber (relay : Relay) (sender : SessionKey) : Operation → Option SequenceNumber
  | .receive id bytes now =>
    match relay.directory.find? id, InboundPacket.format.decode bytes with
    | some peer, .ok packet =>
      if peer.key = sender then
        peer.acceptedNumber relay.config.scaleBounds packet bytes.length now
      else none
    | _, _ => none
  | _ => none

/-- The news of a session for another after an operation: none if it was forwarded, and
otherwise what it was before and the number that was accepted. -/
def newsBy (relay : Relay) (receiver sender : SessionKey) (before : List SequenceNumber)
    (operation : Operation) : List SequenceNumber :=
  if (relay.forwardedBy receiver sender operation).isSome then []
  else before ++ (relay.acceptedNumber sender operation).toList

/-- The numbers that were accepted from a session since it was last forwarded to another in
a run, after those before the run. -/
def news (relay : Relay) (receiver sender : SessionKey) (before : List SequenceNumber) :
    List Operation → List SequenceNumber
  | [] => before
  | operation :: rest =>
    (relay.apply operation).news receiver sender
      (relay.newsBy receiver sender before operation) rest

end Relay

namespace Sender

/-- The number that a sender holds follows from the one that was sent and the news since. -/
structure Follows (sender : Sender) (sent : SequenceNumber) (news : List SequenceNumber) :
    Prop where
  latest : sender.latest = news.getLastD sent
  /-- A sender that nothing was accepted from has no news. -/
  blank : sender.hasUpdate = false → sender.latest = 0 ∧ news = []
  /-- Only the first update of all may have the number that counts as sent before. -/
  still : news ≠ [] → (∀ number ∈ news, number = sent) → sent = 0

namespace Follows

variable {sender after : Sender} {sent number : SequenceNumber} {news : List SequenceNumber}

theorem new : Sender.new.Follows 0 [] where
  latest := rfl
  blank _ := ⟨rfl, rfl⟩
  still nonempty := absurd rfl nonempty

theorem of_eq (follows : sender.Follows sent news)
    (same : after.hasUpdate = sender.hasUpdate ∧ after.latest = sender.latest) :
    after.Follows sent news where
  latest := same.2.trans follows.latest
  blank unheard := by
    rw [same.2]
    exact follows.blank (same.1.symm.trans unheard)
  still := follows.still

theorem forwarded (follows : sender.Follows sent news) : sender.Follows sender.latest [] where
  latest := rfl
  blank unheard := ⟨(follows.blank unheard).1, rfl⟩
  still nonempty := absurd rfl nonempty

/-- A number is accepted if it differs from the one that is held, or if none is held yet. -/
theorem accept (follows : sender.Follows sent news) (fresh : sender.isStale number = false)
    (hasUpdate : after.hasUpdate = true) (latest : after.latest = number) :
    after.Follows sent (news ++ [number]) where
  latest := by rw [latest, List.getLastD_concat]
  blank unheard := absurd (hasUpdate.symm.trans unheard) Bool.noConfusion
  still _ all := by
    by_cases first : news = []
    · have same : number = sent := all number (by simp)
      have held : sender.latest = sent := by rw [follows.latest, first, List.getLastD_nil]
      cases before : sender.hasUpdate with
      | false => rw [← held, (follows.blank before).1]
      | true =>
        rw [Sender.isStale, before, same, held, Bool.true_and, Bool.not_eq_false',
          Sequence.newer, Sequence.distance_eq_zero_iff.mpr rfl] at fresh
        cases fresh
    · exact follows.still first fun other listed => all other (List.mem_append_left _ listed)

/-- Whether the number that is held was sent tells whether there is news, unless that number
is zero or the news went all the way round. -/
theorem latest_eq_iff (follows : sender.Follows sent news)
    (short : Sequence.advance sent news < 65536) (nonzero : sent ≠ 0) :
    sender.latest = sent ↔ news = [] := by
  rw [follows.latest, Sequence.getLastD_eq_iff short]
  constructor
  · intro all
    by_contra nonempty
    exact nonzero (follows.still nonempty all)
  · rintro rfl number listed
    cases listed

end Follows

end Sender

namespace Peer

theorem sender_of_client? {peer : Peer} {bounds : ScaleBounds} {client : Client}
    (known : peer.client? bounds = some client) : client.sender = peer.sender := by
  rcases client_of_client? known with held | ⟨held, rfl⟩
  · exact (sender_of_client held).symm
  · rw [sender, held]
    rfl

/-- A packet leaves a sender with the number that was accepted, which was not stale, or else
with the one that it held. -/
theorem sender_sending (bounds : ScaleBounds) (packet : InboundPacket) (bytes : Nat)
    (now : Instant) (peer : Peer) :
    let after := (peer.sending bounds packet bytes now).sender
    (∃ number, peer.acceptedNumber bounds packet bytes now = some number ∧
      peer.sender.isStale number = false ∧ after.hasUpdate = true ∧ after.latest = number) ∨
    (peer.acceptedNumber bounds packet bytes now = none ∧
      after.hasUpdate = peer.sender.hasUpdate ∧ after.latest = peer.sender.latest) := by
  intro after
  rcases peer.client_sending bounds packet bytes now with
    ⟨number, pose, client, rfl, known, same⟩ | ⟨identity, client, rfl, known, same⟩ |
      ⟨nothing, same⟩
  · rw [show after = _ from sender_of_client same, ← sender_of_client? known]
    simp only [acceptedNumber, acceptedPose, known]
    rcases client.sender_applyUpdate number pose bytes now with
      ⟨accepted, fresh, hasUpdate, latest⟩ | ⟨dropped, -, kept⟩
    · rw [if_pos accepted]
      exact Or.inl ⟨number, rfl, fresh, hasUpdate, latest⟩
    · rw [if_neg dropped]
      exact Or.inr ⟨rfl, kept⟩
  · rw [show after = _ from sender_of_client same, ← sender_of_client? known]
    refine Or.inr ⟨rfl, ?_⟩
    unfold Client.applyIdentity
    split <;> exact ⟨rfl, rfl⟩
  · have own : (peer.sending bounds packet bytes now).sender = peer.sender := by
      rw [sender, same, sender]
    have none : peer.acceptedNumber bounds packet bytes now = none := by
      unfold acceptedNumber
      split
      · rw [nothing, Option.map_none]
      · rfl
    rw [show after = _ from own]
    exact Or.inr ⟨none, rfl, rfl⟩

/-- What holds of a sender's number and the news holds again after a packet. -/
theorem follows_sending {peer : Peer} {sent : SequenceNumber} {news : List SequenceNumber}
    (follows : peer.sender.Follows sent news) (bounds : ScaleBounds) (packet : InboundPacket)
    (bytes : Nat) (now : Instant) :
    (peer.sending bounds packet bytes now).sender.Follows sent
      (news ++ (peer.acceptedNumber bounds packet bytes now).toList) := by
  rcases peer.sender_sending bounds packet bytes now with
    ⟨number, accepted, fresh, hasUpdate, latest⟩ | ⟨nothing, same⟩
  · rw [accepted, Option.toList_some]
    exact follows.accept fresh hasUpdate latest
  · rw [nothing, Option.toList_none, List.append_nil]
    exact follows.of_eq same

end Peer

namespace Relay

/-- As long as a session is connected, the number that it holds follows from what was sent
of it and its news since. -/
structure Informs (relay : Relay) (sender : SessionKey) (sent : Option SequenceNumber)
    (news : List SequenceNumber) : Prop where
  formed : relay.directory.WellFormed
  begun : sent ≠ none ∨ news ≠ [] → sender.session ≤ relay.directory.lastSession
  follows : ∀ {peer}, relay.directory.findSession? sender = some peer →
    peer.sender.Follows (sent.getD 0) news

variable {relay : Relay} {receiver sender : SessionKey}

/-- A packet leaves every sender the number that it held, or the one that was accepted. -/
theorem follows_heard (formed : relay.directory.WellFormed) {peer : Peer}
    (there : relay.directory.findSession? sender = some peer) {sent : SequenceNumber}
    {news : List SequenceNumber} (follows : peer.sender.Follows sent news) (id : PeerId)
    (bytes : Bytes) (now : Instant) :
    (relay.heard id bytes now peer).sender.Follows sent
      (news ++ (relay.acceptedNumber sender (.receive id bytes now)).toList) := by
  rcases heard_cases formed there id bytes now with
    ⟨packet, found, own, decoded, heard⟩ | ⟨heard, apart⟩
  · rw [heard]
    simp only [acceptedNumber, found, decoded, own, if_true]
    exact Peer.follows_sending follows _ _ _ _
  · have silent : relay.acceptedNumber sender (.receive id bytes now) = none := by
      simp only [acceptedNumber]
      split
      · next other packet found decoded => exact if_neg (apart other packet found decoded)
      · rfl
    rw [heard, silent, Option.toList_none, List.append_nil]
    exact follows

theorem latest_of_forwardedBy (formed : relay.directory.WellFormed) {before : Peer}
    (there : relay.directory.findSession? sender = some before) {order : VisitOrder}
    {busy : SessionKey → Bool} {began ended : Instant} {number : SequenceNumber}
    (forwarded : relay.forwardedBy receiver sender (.tick order busy began ended) = some number) :
    before.sender.latest = number := by
  obtain ⟨-, peer, -, found, latest⟩ := forwardedBy_tick forwarded
  obtain ⟨left, -⟩ := (Directory.findSession?_eq_some_iff _).mp found
  obtain ⟨same, here, -, rfl⟩ := relay.purged_beforePass order busy began formed left
  obtain rfl : same = before := Option.some.inj
    (here.symm.trans ((Directory.findSession?_eq_some_iff _).mp there).1)
  obtain ⟨client, known, own⟩ := Option.map_eq_some_iff.mp latest
  rw [← Peer.sender_purgedOfAll, Peer.sender_of_client known]
  exact own

/-- Nothing is forwarded of a session that has not begun. -/
theorem forwardedBy_of_late (formed : relay.directory.WellFormed)
    (late : relay.directory.lastSession < sender.session) (operation : Operation) :
    relay.forwardedBy receiver sender operation = none := by
  cases operation with
  | tick order busy began ended =>
    rw [Option.eq_none_iff_forall_ne_some]
    intro number forwarded
    obtain ⟨-, peer, -, found, -⟩ := forwardedBy_tick forwarded
    obtain ⟨there, session⟩ := (Directory.findSession?_eq_some_iff _).mp found
    have bound := (relay.wellFormed_beforePass order busy began formed).numbered there
    rw [relay.lastSession_beforePass order busy began formed] at bound
    omega
  | connect _ _ | receive _ _ _ | disconnect _ | rewire _ => rfl

theorem acceptedNumber_of_late (formed : relay.directory.WellFormed)
    (late : relay.directory.lastSession < sender.session) (operation : Operation) :
    relay.acceptedNumber sender operation = none := by
  cases operation with
  | receive id bytes now =>
    simp only [acceptedNumber]
    split
    · next peer packet there decoded =>
      rw [if_neg]
      rintro rfl
      exact absurd (formed.numbered there) (Nat.not_le_of_lt late)
    · rfl
  | connect _ _ | disconnect _ | rewire _ | tick _ _ _ _ => rfl

namespace Informs

variable {sent : Option SequenceNumber} {news : List SequenceNumber}

theorem opened (config : Config) (fanout : Fanout) (sender : SessionKey) :
    (Relay.opened config fanout).Informs sender none [] where
  formed := Directory.WellFormed.empty
  begun known := by simp at known
  follows {peer} found := by
    obtain ⟨there, -⟩ := (Directory.findSession?_eq_some_iff _).mp found
    rw [find?_opened] at there
    cases there

theorem unheard (informs : relay.Informs sender sent news) (receiver : SessionKey)
    (operation : Operation) (late : relay.directory.lastSession < sender.session) :
    (relay.forwardedBy receiver sender operation).or sent = none ∧
      relay.newsBy receiver sender news operation = [] := by
  have before : ¬ (sent ≠ none ∨ news ≠ []) := fun known =>
    absurd (informs.begun known) (Nat.not_le_of_lt late)
  rw [not_or, not_not, not_not] at before
  rw [newsBy, forwardedBy_of_late informs.formed late, before.1, before.2,
    acceptedNumber_of_late informs.formed late]
  exact ⟨rfl, rfl⟩

/-- Every operation keeps what holds of a session, with what it has forwarded and accepted of
it. -/
theorem apply (informs : relay.Informs sender sent news) (receiver : SessionKey)
    (operation : Operation) :
    (relay.apply operation).Informs sender
      ((relay.forwardedBy receiver sender operation).or sent)
      (relay.newsBy receiver sender news operation) where
  formed := wellFormed_apply informs.formed operation
  begun known := by
    refine Nat.le_trans ?_ (lastSession_apply informs.formed operation)
    by_contra late
    obtain ⟨blank, nothing⟩ := informs.unheard receiver operation (Nat.lt_of_not_le late)
    exact known.elim (absurd blank) (absurd nothing)
  follows {peer} found := by
    have formed := informs.formed
    by_cases late : relay.directory.lastSession < sender.session
    · -- The session has begun with this operation.
      obtain ⟨blank, nothing⟩ := informs.unheard receiver operation late
      rw [blank, nothing]
      obtain ⟨role, rfl⟩ := eq_new_of_late formed late found
      exact Sender.Follows.new
    · obtain ⟨before, there, changes⟩ :=
        findSession?_apply formed (Nat.le_of_not_lt late) found
      have follows := informs.follows there
      cases operation with
      | receive id bytes now =>
        rw [show peer = _ from changes]
        exact follows_heard formed there follows id bytes now
      | tick order busy began ended =>
        obtain ⟨stays, reported, rfl⟩ := changes
        have same := And.intro
          (relay.sender_ticked order busy began ended Sender.hasUpdate (fun _ _ => rfl) reported
            before)
          (relay.sender_ticked order busy began ended Sender.latest (fun _ _ => rfl) reported
            before)
        cases forwarded : relay.forwardedBy receiver sender (.tick order busy began ended) with
        | none =>
          rw [newsBy, forwarded]
          refine Sender.Follows.of_eq ?_ same
          change before.sender.Follows (sent.getD 0) (news ++ [])
          rw [List.append_nil]
          exact follows
        | some number =>
          rw [newsBy, forwarded]
          refine Sender.Follows.of_eq ?_ same
          rw [Option.some_or, Option.getD_some, ← latest_of_forwardedBy formed there forwarded]
          exact follows.forwarded
      | connect _ _ | disconnect _ | rewire _ =>
        rw [show peer = before from changes]
        change before.sender.Follows _ (news ++ [])
        rw [List.append_nil]
        exact follows

theorem run (informs : relay.Informs sender sent news) (receiver : SessionKey)
    (operations : List Operation) :
    (relay.run operations).Informs sender
      ((relay.lastForward receiver sender operations).or sent)
      (relay.news receiver sender news operations) := by
  induction operations generalizing relay sent news with
  | nil => exact informs
  | cons operation rest ih =>
    simp only [lastForward, Option.or_assoc]
    exact ih (informs.apply receiver operation)

end Informs

end Relay

namespace Visit

/-- Every question of a visit is answered in favor but the last one, whether there is anything
new. -/
def welcomes (context : PassContext) (own other : Candidate) (visit : Visit) : Bool :=
  !own.apart other && !context.busy other.id && !own.muted other &&
    visit.admits context own other

/-- A candidate that is welcome is not forwarded exactly if it is held back. -/
theorem forwards_eq_false_iff (context : PassContext) (own other : Candidate) (visit : Visit) :
    visit.forwards context own other = false ↔
      visit.welcomes context own other = false ∨
        Sequence.standing (visit.receiver.lastFrom other.id) other.sender.latest =
          .heldBack := by
  have held : ∀ standing : Sequence.Standing,
      standing.sends = false ↔ standing = .heldBack := by
    intro standing
    cases standing <;> simp [Sequence.Standing.sends]
  rw [forwards, ← welcomes, Bool.and_eq_false_iff, held]

end Visit

namespace Relay

theorem forwards_tickMail {relay : Relay} (formed : relay.directory.WellFormed)
    (order : VisitOrder) (busy : SessionKey → Bool) (began : Instant) (receiver sender : PeerId) :
    Parcel.forwards (relay.tickMail order busy began) receiver sender =
      Parcel.forwards (relay.nextPass order busy began).mail receiver sender := by
  rw [Bool.eq_iff_iff, Parcel.forwards_iff, Parcel.forwards_iff]
  constructor
  · rintro ⟨batch, sent, among⟩
    exact ⟨batch, relay.bulk_of_tickMail order busy began formed sent, among⟩
  · rintro ⟨batch, sent, among⟩
    exact ⟨batch, List.mem_append_right _ sent, among⟩

/-- The number that a sender holds in the pass of a tick follows from what is on record. -/
theorem Informs.follows_beforePass {relay : Relay} {sender : Peer} {sent : Option SequenceNumber}
    {news : List SequenceNumber} (informs : relay.Informs sender.key sent news)
    {order : VisitOrder} {busy : SessionKey → Bool} {began : Instant}
    (sends : (relay.nextPass order busy began).directory.find? sender.id = some sender) :
    sender.sender.Follows (sent.getD 0) news := by
  obtain ⟨before, found, -, purged⟩ := relay.purged_beforePass order busy began informs.formed sends
  have key : before.key = sender.key := by rw [purged, Peer.key_purgedOfAll]
  have there : relay.directory.findSession? sender.key = some before :=
    (Directory.findSession?_eq_some_iff _).mpr ⟨found, congrArg SessionKey.session key⟩
  rw [purged, Peer.sender_purgedOfAll]
  exact informs.follows there

/-- A receiver is not forwarded a sender that it was forwarded before exactly if the sender is
not welcome, or holds the number that was forwarded and that number is not zero. -/
theorem Chronicled.forwards_eq_false_iff {relay : Relay}
    {record : SessionKey → SessionKey → Option SequenceNumber}
    (chronicled : relay.Chronicled record) {order : VisitOrder} {busy : SessionKey → Bool}
    {began : Instant} {receiver sender : Peer} {client data : Client}
    (meets : (relay.nextPass order busy began).Meets receiver client sender data)
    {sent : SequenceNumber} (shown : record receiver.key sender.key = some sent) :
    Parcel.forwards (relay.nextPass order busy began).mail receiver.id sender.id = false ↔
      ((relay.nextPass order busy began).visitBefore (Candidate.of receiver client) client.receiver
        sender.id).welcomes (relay.nextPass order busy began).context
          (Candidate.of receiver client) (Candidate.of sender data) = false ∨
      sender.sender.latest = sent ∧ sent ≠ 0 := by
  have proper := relay.proper_nextPass order busy began chronicled.traced.formed
  have last : ((relay.nextPass order busy began).visitBefore (Candidate.of receiver client)
      client.receiver sender.id).receiver.lastFrom sender.id = sent := by
    rw [Receiver.lastFrom, chronicled.entry meets, shown, Option.getD_some]
  have own : (Candidate.of sender data).sender = sender.sender :=
    (Peer.sender_of_client meets.given).symm
  rw [proper.forwards_of_meets meets, Visit.forwards_eq_false_iff, own,
    show (Candidate.of sender data).id = sender.id from rfl, last,
    Sequence.standing_eq_heldBack_iff]

end Relay

/-- An admitted sender is held back exactly if there is nothing new. Take a tick of a run and
two sessions one of which was forwarded to the other before. If nothing was accepted of it
since then, it is not forwarded again, unless the number that was forwarded is zero. And if
the sender is admitted, and the numbers accepted since then have not gone all the way round,
it is held back in this case alone. -/
theorem news_of_run (config : Config) (fanout : Fanout) (operations : List Relay.Operation)
    (order : VisitOrder) (busy : SessionKey → Bool) (began ended : Instant) {receiver sender : Peer}
    (receives : (((Relay.opened config fanout).run operations).nextPass order busy
      began).directory.find? receiver.id = some receiver)
    (sends : (((Relay.opened config fanout).run operations).nextPass order busy
      began).directory.find? sender.id = some sender)
    {sent : SequenceNumber}
    (shown : (Relay.opened config fanout).lastForward receiver.key sender.key operations =
      some sent) :
    let start := Relay.opened config fanout
    let relay := start.run operations
    let pass := relay.nextPass order busy began
    let news := start.news receiver.key sender.key [] operations
    let forwarded := Parcel.forwards (relay.tickMail order busy began) receiver.id sender.id
    (relay.tick order busy began ended).2.transport =
        relay.transport.deliverAll (relay.tickMail order busy began) ∧
      (news = [] → sent ≠ 0 → forwarded = false) ∧
      ∀ client data, pass.Meets receiver client sender data →
        (pass.visitBefore (Candidate.of receiver client) client.receiver sender.id).welcomes
          pass.context (Candidate.of receiver client) (Candidate.of sender data) = true →
        Sequence.advance sent news < 65536 →
          (forwarded = false ↔ news = [] ∧ sent ≠ 0) := by
  intro start relay pass news forwarded
  have chronicled := (Relay.Chronicled.opened config fanout).run operations
  have informs := (Relay.Informs.opened config fanout sender.key).run receiver.key operations
  have formed : relay.directory.WellFormed := chronicled.traced.formed
  have proper : pass.Proper := relay.proper_nextPass order busy began formed
  have sameMail : forwarded = Parcel.forwards pass.mail receiver.id sender.id :=
    Relay.forwards_tickMail formed order busy began receiver.id sender.id
  have follows : sender.sender.Follows sent news := by
    have followed := informs.follows_beforePass sends
    rwa [shown, Option.some_or, Option.getD_some] at followed
  -- Whether a sender that is met is forwarded, by the two numbers.
  have told {client data : Client} (meets : pass.Meets receiver client sender data) :
      forwarded = false ↔
        (pass.visitBefore (Candidate.of receiver client) client.receiver sender.id).welcomes
          pass.context (Candidate.of receiver client) (Candidate.of sender data) = false ∨
        sender.sender.latest = sent ∧ sent ≠ 0 := by
    rw [sameMail]
    exact chronicled.forwards_eq_false_iff meets (by rw [shown, Option.some_or])
  refine ⟨(relay.tick_keeps order busy began ended formed).1, fun nothing nonzero => ?_,
    fun client data meets welcome short => ?_⟩
  · rw [Bool.eq_false_iff]
    intro again
    rw [sameMail] at again
    obtain ⟨client, data, meets⟩ := proper.meets_of_forwards receives sends again
    have same : sender.sender.latest = sent := by
      rw [follows.latest, nothing, List.getLastD_nil]
    rw [← sameMail, (told meets).mpr (Or.inr ⟨same, nonzero⟩)] at again
    cases again
  · rw [told meets, welcome]
    constructor
    · rintro (unwelcome | ⟨same, nonzero⟩)
      · cases unwelcome
      · exact ⟨(follows.latest_eq_iff short nonzero).mp same, nonzero⟩
    · rintro ⟨nothing, nonzero⟩
      exact Or.inr ⟨(follows.latest_eq_iff short nonzero).mpr nothing, nonzero⟩

/-- One of two agents has sent two updates, the first of which the other was forwarded. It is
welcome at the next tick, and as there is news it is forwarded. -/
theorem news_after_introduction :
    let start := Relay.opened Config.standard (Fanout.ofSeed Config.standard.fanoutSettings 0)
    let update := InboundPacket.format.write (.avatarData 2 default)
    let operations := Relay.introduction ++
      [.tick .ascending (fun _ => false) 0 0, .receive Relay.secondAgent update 0]
    start.news ⟨Relay.firstAgent, 1⟩ ⟨Relay.secondAgent, 2⟩ [] operations = [2] ∧
      Parcel.forwards ((start.run operations).tickMail .ascending (fun _ => false) 1)
        Relay.firstAgent Relay.secondAgent = true := by
  intro start update operations
  let pass := (start.run operations).nextPass .ascending (fun _ => false) 1
  let receiver := (pass.directory.find? Relay.firstAgent).getD (Peer.new Relay.firstAgent .agent 1)
  let sender := (pass.directory.find? Relay.secondAgent).getD (Peer.new Relay.secondAgent .agent 2)
  let client := receiver.client.getD (Client.new default)
  let data := sender.client.getD (Client.new default)
  have meets : pass.Meets receiver client sender data := by decide +kernel
  have key : receiver.key = ⟨Relay.firstAgent, 1⟩ := by decide +kernel
  have keyOther : sender.key = ⟨Relay.secondAgent, 2⟩ := by decide +kernel
  have shown : start.lastForward receiver.key sender.key operations = some 1 := by decide +kernel
  have newest : start.news receiver.key sender.key [] operations = [2] := by decide +kernel
  have welcome : (pass.visitBefore (Candidate.of receiver client) client.receiver
      sender.id).welcomes pass.context (Candidate.of receiver client)
        (Candidate.of sender data) = true := by decide +kernel
  obtain ⟨-, -, told⟩ := news_of_run _ _ operations .ascending (fun _ => false) 1 1
    meets.receives meets.sends shown
  have held := told client data meets welcome (by rw [newest]; decide +kernel)
  have own : receiver.id = Relay.firstAgent := by decide +kernel
  have other : sender.id = Relay.secondAgent := by decide +kernel
  rw [newest, own, other] at held
  rw [key, keyOther] at newest
  refine ⟨newest, ?_⟩
  rw [← Bool.not_eq_false]
  intro silent
  rw [held] at silent
  exact absurd silent.1 (List.cons_ne_nil 2 [])

/-- It would be wrong to leave number zero out of account: a sender whose only update has this
number is forwarded at every tick that admits it, with nothing new. -/
theorem zero_sent_again :
    ¬ ∀ (config : Config) (fanout : Fanout) (operations : List Relay.Operation)
      (order : VisitOrder) (busy : SessionKey → Bool) (began : Instant) (receiver sender : Peer)
      (client data : Client) (sent : SequenceNumber),
      let start := Relay.opened config fanout
      let relay := start.run operations
      let pass := relay.nextPass order busy began
      let news := start.news receiver.key sender.key [] operations
      pass.Meets receiver client sender data →
      start.lastAccepted sender.key operations ≠ none →
      start.lastForward receiver.key sender.key operations = some sent →
      (pass.visitBefore (Candidate.of receiver client) client.receiver sender.id).welcomes
        pass.context (Candidate.of receiver client) (Candidate.of sender data) = true →
      Sequence.advance sent news < 65536 →
        (Parcel.forwards (relay.tickMail order busy began) receiver.id sender.id = false ↔
          news = []) := by
  intro always
  let start := Relay.opened Config.standard (Fanout.ofSeed Config.standard.fanoutSettings 0)
  let update (number : SequenceNumber) :=
    InboundPacket.format.write (.avatarData number default)
  let operations : List Relay.Operation :=
    [.rewire (((Loopback.new 0).setAddress Relay.firstAgent true).setAddress Relay.secondAgent
        true),
      .connect Relay.firstAgent .agent, .connect Relay.secondAgent .agent,
      .receive Relay.firstAgent (update 1) 0, .receive Relay.secondAgent (update 0) 0,
      .tick .ascending (fun _ => false) 0 0]
  let pass := (start.run operations).nextPass .ascending (fun _ => false) 1
  let receiver := (pass.directory.find? Relay.firstAgent).getD (Peer.new Relay.firstAgent .agent 1)
  let sender := (pass.directory.find? Relay.secondAgent).getD (Peer.new Relay.secondAgent .agent 2)
  let client := receiver.client.getD (Client.new default)
  let data := sender.client.getD (Client.new default)
  have meets : pass.Meets receiver client sender data := by decide +kernel
  have accepted : start.lastAccepted sender.key operations ≠ none := by decide +kernel
  have shown : start.lastForward receiver.key sender.key operations = some 0 := by decide +kernel
  have nothing : start.news receiver.key sender.key [] operations = [] := by decide +kernel
  have welcome : (pass.visitBefore (Candidate.of receiver client) client.receiver
      sender.id).welcomes pass.context (Candidate.of receiver client)
        (Candidate.of sender data) = true := by decide +kernel
  have again : Parcel.forwards ((start.run operations).tickMail .ascending (fun _ => false) 1)
      receiver.id sender.id = true := by decide +kernel
  have held := (always _ _ operations .ascending (fun _ => false) 1 receiver sender client data 0
    meets accepted shown welcome (by rw [nothing]; decide)).mpr nothing
  exact absurd (again.symm.trans held) Bool.noConfusion

end AvatarRelay
