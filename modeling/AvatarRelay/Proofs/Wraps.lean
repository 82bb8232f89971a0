/-
# Numbers that pass zero

A sender is counted as out of order for a receiver when it is forwarded under a number below
the one that it was last forwarded under. Numbers wrap around, so this happens to senders
whose updates arrive in their order as well: exactly when their numbers have passed zero
since, and did not set out from the largest number of all, which is exempt. In a run in which
no number passes zero in this way nothing is ever counted.
-/

import AvatarRelay.Proofs.Accounts
import AvatarRelay.Proofs.News
import AvatarRelay.Proofs.Reports

namespace AvatarRelay

-- The zero of a sum is that of the numerals, whatever other instances are in scope.
attribute [local instance (2000)] Zero.ofOfNat0

/-- A visit counts a candidate that it forwards under a number below the last one. -/
theorem Visit.outOfOrder_gain (context : PassContext) (own other : Candidate) (visit : Visit) :
    (visit.gain context own other).outOfOrder =
      (visit.forwards context own other &&
        Sequence.outOfOrder (visit.receiver.lastFrom other.id) other.sender.latest) := by
  rw [forwards, gain]
  cases own.apart other with
  | true => rfl
  | false =>
    cases context.busy other.id with
    | true => rfl
    | false =>
      cases own.muted other with
      | true => rfl
      | false =>
        cases visit.admits context own other with
        | false => rfl
        | true =>
          change Sequence.outOfOrder (visit.receiver.lastFrom other.id) other.sender.latest = _
          cases disordered : Sequence.outOfOrder (visit.receiver.lastFrom other.id)
              other.sender.latest with
          | false => rw [Bool.and_false]
          | true => simp [Sequence.sends_of_outOfOrder disordered]

/-- A receiver adds up the candidates that its visits count. -/
theorem Receiver.outOfOrderLastPass_foldl (gains : Candidate → Gain) (others : List Candidate)
    (receiver : Receiver) :
    (others.foldl (fun receiver other => receiver.absorb other (gains other))
        receiver).outOfOrderLastPass =
      receiver.outOfOrderLastPass + others.countP fun other => (gains other).outOfOrder := by
  induction others generalizing receiver with
  | nil => rfl
  | cons first rest ih =>
    rw [List.foldl_cons, ih, List.countP_cons, Nat.add_comm (List.countP _ _), ← Nat.add_assoc]
    congr 1
    change receiver.outOfOrderLastPass + (gains first).outOfOrder.toNat = _
    cases (gains first).outOfOrder <;> rfl

/-- How many senders a peer has counted as out of order, in its last pass and in all; none without
client data. -/
def Peer.disorders (peer : Peer) : Nat × UInt64 :=
  (peer.client.map fun client =>
    (client.receiver.outOfOrderLastPass, client.receiver.outOfOrderTotal)).getD (0, 0)

namespace Pass

variable (pass : Pass)

/-- A candidate is forwarded to a receiver under a number below the last one. -/
def misorders (receiver : PeerId) (other : Candidate) : Bool :=
  Parcel.forwards pass.mail receiver other.id &&
    Sequence.outOfOrder ((pass.directory.receiverOf receiver).lastFrom other.id)
      other.sender.latest

def disorder (receiver : PeerId) : Nat :=
  pass.audience.countP (pass.misorders receiver)

variable {pass}

theorem disorder_of_quiet {receiver : PeerId} (quiet : Parcel.packetsTo receiver pass.mail = []) :
    pass.disorder receiver = 0 := by
  refine List.countP_eq_zero.mpr fun other _ => ?_
  rw [misorders, Parcel.forwards, quiet]
  exact Bool.false_ne_true

namespace Proper

variable (proper : pass.Proper)

include proper

/-- A turn counts those that it forwards under numbers below the last ones. -/
theorem outOfOrder_visit {receiver : Peer} {client : Client}
    (receives : pass.directory.find? receiver.id = some receiver)
    (known : receiver.client = some client) (served : pass.serves receiver = true) :
    (pass.visit (Candidate.of receiver client) client.receiver).receiver.outOfOrderLastPass =
      pass.disorder receiver.id := by
  have same : pass.directory.receiverOf receiver.id = client.receiver := by
    rw [Directory.receiverOf, Directory.client?, receives, Option.bind_some, known,
      Option.map_some, Option.getD_some]
  have blank : (pass.opening (Candidate.of receiver client)
      client.receiver).receiver.outOfOrderLastPass = 0 :=
    congrArg Figures.outOfOrder (client.receiver.figures_prepare _ _)
  rw [proper.visit_eq_absorbAll, Visit.absorbAll_eq, Receiver.outOfOrderLastPass_foldl, blank,
    Nat.zero_add, disorder]
  refine List.countP_congr fun other present => ?_
  have last : (pass.visitBefore (Candidate.of receiver client) client.receiver
      other.id).receiver.lastFrom other.id = client.receiver.lastFrom other.id :=
    congrArg (·.getD 0) (proper.lastForwarded_visitBefore _ _ present)
  rw [gain, Visit.outOfOrder_gain, last, misorders, same,
    proper.forwards_of_present known receives served present]

/-- What a peer that had counted nobody has counted after a pass. -/
theorem disorders_passed {receiver : Peer}
    (receives : pass.directory.find? receiver.id = some receiver)
    (calm : receiver.disorders = (0, 0)) :
    (pass.passed receiver).disorders =
      (pass.disorder receiver.id, UInt64.ofNat (pass.disorder receiver.id)) := by
  obtain ⟨change, passed, changes⟩ := pass.passed_spec receiver
  rw [Peer.disorders] at calm
  rw [passed, Peer.disorders, Peer.client_mapClient]
  cases known : receiver.client with
  | none =>
    rw [disorder_of_quiet (proper.packetsTo_of_unserved receives (Or.inr known))]
    rfl
  | some client =>
    rw [known] at calm
    simp only [Option.map_some, Option.getD_some, (changes client).2] at calm ⊢
    cases served : pass.serves receiver with
    | false =>
      rw [disorder_of_quiet (proper.packetsTo_of_unserved receives (Or.inl served))]
      exact calm
    | true =>
      obtain ⟨present, free⟩ := proper.present_of_served receives known served
      have grown := (proper.booked_visit (Candidate.of receiver client) client.receiver).grown
      have counted := proper.outOfOrder_visit receives known served
      have figures := Visit.figures_settled
        (pass.visit (Candidate.of receiver client) client.receiver) pass.now
      have last := (congrArg Figures.outOfOrder figures).trans counted
      have total := (congrArg Figures.outOfOrderTotal figures).trans
        (grown.trans (congrArg (client.receiver.outOfOrderTotal + UInt64.ofNat ·) counted))
      rw [(Prod.mk.inj calm).2, UInt64.zero_add] at total
      rw [if_pos rfl]
      exact Prod.ext last total

/-- What a pass counts is what its receivers count. -/
theorem outOfOrder_counters :
    pass.result.1.counters.outOfOrder =
      UInt64.ofNat (pass.audience.map fun own => pass.disorder own.id).sum := by
  refine proper.counter_result ⟨rfl, fun _ _ => rfl⟩ fun own present => ?_
  rw [(proper.booked_turn present).outOfOrder, figureOf]
  cases occupied : pass.busy own.id with
  | true =>
    have quiet : Parcel.packetsTo own.id pass.mail = [] :=
      (proper.packetsTo_mail present).trans (packetsOf_of_busy occupied)
    rw [disorder_of_quiet quiet]
    rfl
  | false =>
    obtain ⟨receiver, client, receives, known, rfl, served⟩ :=
      proper.served_of_present present occupied
    obtain ⟨data, left, settled⟩ :=
      proper.client?_result present occupied (client?_of_found receives known)
    have figures := Visit.figures_settled
      (pass.visit (Candidate.of receiver client) client.receiver) pass.now
    rw [if_neg Bool.false_ne_true, Directory.receiverOf, left, Option.map_some, Option.getD_some,
      settled]
    refine congrArg UInt64.ofNat ((congrArg Figures.outOfOrder figures).trans ?_)
    exact proper.outOfOrder_visit receives known served

end Proper

end Pass

/-! ## What a run counts -/

namespace Peer

variable (peer : Peer)

theorem disorders_sending (bounds : ScaleBounds) (packet : InboundPacket) (bytes : Nat)
    (now : Instant) :
    (peer.sending bounds packet bytes now).disorders = peer.disorders := by
  -- Client data that comes into being has counted nothing, like a peer without any.
  have found {client : Client} (known : peer.client? bounds = some client) :
      (client.receiver.outOfOrderLastPass, client.receiver.outOfOrderTotal) = peer.disorders := by
    rw [disorders]
    rcases client_of_client? known with held | ⟨held, rfl⟩
    · rw [held, Option.map_some, Option.getD_some]
    · rw [held]
      rfl
  rcases peer.client_sending bounds packet bytes now with
    ⟨number, pose, client, -, known, after⟩ | ⟨identity, client, -, known, after⟩ | ⟨-, after⟩
  · rw [disorders, after, Option.map_some, Option.getD_some, client.receiver_applyUpdate,
      found known]
  · rw [disorders, after, Option.map_some, Option.getD_some, client.receiver_applyIdentity,
      found known]
  · rw [disorders, after, disorders]

theorem disorders_purgedOfAll (busy : Bool) (departed : List PeerId) :
    (peer.purgedOfAll busy departed).disorders = peer.disorders := by
  have forgets (departed : List PeerId) (client : Client) :
      (client.forgetAll departed).receiver.outOfOrderLastPass =
          client.receiver.outOfOrderLastPass ∧
        (client.forgetAll departed).receiver.outOfOrderTotal =
          client.receiver.outOfOrderTotal := by
    induction departed generalizing client with
    | nil => exact ⟨rfl, rfl⟩
    | cons first rest ih => exact ih _
  rw [disorders, client_purgedOfAll, disorders]
  split
  · rfl
  · cases peer.client with
    | none => rfl
    | some client => exact Prod.ext (forgets departed client).1 (forgets departed client).2

theorem disorders_figured (busy : SessionKey → Bool) (now : Instant) :
    (peer.figured busy now).disorders = peer.disorders := by
  refine figured_keeps disorders (fun peer => ?_) busy peer
  rw [disorders, client_mapClient, Option.map_map]
  rfl

end Peer

namespace Relay

/-- No connected peer has counted anyone as out of order, neither in its last pass nor in all. The
count of all wraps around, so that a nought there says nothing of passes long ago by itself. -/
def Orderly (relay : Relay) : Prop :=
  ∀ ⦃id peer⦄, relay.directory.find? id = some peer → peer.disorders = (0, 0)

/-- No session is forwarded to another under a number below that on record. -/
def InOrder (relay : Relay) (record : SessionKey → SessionKey → Option SequenceNumber)
    (operation : Operation) : Prop :=
  ∀ receiver sender number, relay.forwardedBy receiver sender operation = some number →
    Sequence.outOfOrder ((record receiver sender).getD 0) number = false

variable {relay : Relay} {record : SessionKey → SessionKey → Option SequenceNumber}

theorem orderly_opened (config : Config) (fanout : Fanout) :
    (Relay.opened config fanout).Orderly := by
  intro id peer found
  rw [find?_opened] at found
  cases found

theorem Orderly.apply (orderly : relay.Orderly) (formed : relay.directory.WellFormed)
    {operation : Operation} (idle : relay.countersOf operation = []) :
    (relay.apply operation).Orderly := by
  intro id after found
  rcases find?_apply formed found with ⟨role, -, rfl⟩ | ⟨before, there, changes⟩
  · rfl
  rw [← orderly there]
  cases operation with
  | receive sender bytes now =>
    rw [show after = _ from changes, heard]
    split
    · split
      · exact before.disorders_sending _ _ _ _
      · rfl
    · rfl
  | tick order busy began ended => cases idle
  | connect _ _ | disconnect _ | rewire _ => exact congrArg Peer.disorders changes

/-- After a tick of an orderly relay the peers that stay have counted what its pass counts. -/
theorem Orderly.disorders_tick (orderly : relay.Orderly) (formed : relay.directory.WellFormed)
    (order : VisitOrder) (busy : SessionKey → Bool) (began ended : Instant) :
    ∃ change : Peer → Peer,
      (∀ id, (relay.tick order busy began ended).2.directory.find? id =
        ((relay.nextPass order busy began).directory.find? id).map change) ∧
      ∀ receiver, (relay.nextPass order busy began).directory.find? receiver.id = some receiver →
        (change receiver).disorders = ((relay.nextPass order busy began).disorder receiver.id,
          UInt64.ofNat ((relay.nextPass order busy began).disorder receiver.id)) := by
  obtain ⟨reported, left⟩ := relay.find?_tick_passed order busy began ended formed
  refine ⟨_, left, fun receiver receives => ?_⟩
  -- Those who stay have counted nobody before the pass.
  obtain ⟨before, there, -, purged⟩ := relay.purged_beforePass order busy began formed receives
  have calm := congrArg Peer.disorders purged
  rw [Peer.disorders_purgedOfAll, orderly there] at calm
  rw [← (relay.proper_nextPass order busy began formed).disorders_passed receives calm]
  split
  · exact Peer.disorders_figured _ _ _
  · rfl

/-- A tick keeps a relay orderly exactly if its pass counts nobody. -/
theorem Orderly.tick_iff (orderly : relay.Orderly) (formed : relay.directory.WellFormed)
    (order : VisitOrder) (busy : SessionKey → Bool) (began ended : Instant) :
    (relay.tick order busy began ended).2.Orderly ↔ ∀ receiver,
      (relay.nextPass order busy began).directory.find? receiver.id = some receiver →
        (relay.nextPass order busy began).disorder receiver.id = 0 := by
  obtain ⟨change, left, counts⟩ := orderly.disorders_tick formed order busy began ended
  constructor
  · intro still receiver receives
    have calm := still (show _ = some (change receiver) by rw [left, receives, Option.map_some])
    rw [counts receiver receives] at calm
    exact (Prod.mk.inj calm).1
  · intro quiet id after found
    rw [left, Option.map_eq_some_iff] at found
    obtain ⟨receiver, receives, rfl⟩ := found
    have own : receiver.id = id :=
      (relay.wellFormed_beforePass order busy began formed).keyed receives
    subst own
    rw [counts receiver receives, quiet receiver receives]
    rfl

theorem outOfOrder_tick (formed : relay.directory.WellFormed) (order : VisitOrder)
    (busy : SessionKey → Bool) (began ended : Instant)
    (quiet : ∀ receiver,
      (relay.nextPass order busy began).directory.find? receiver.id = some receiver →
      (relay.nextPass order busy began).disorder receiver.id = 0) :
    (relay.tick order busy began ended).1.outOfOrder = 0 := by
  have proper := relay.proper_nextPass order busy began formed
  have nobody : ∀ own ∈ (relay.nextPass order busy began).audience,
      (relay.nextPass order busy began).disorder own.id = 0 := by
    intro own present
    obtain ⟨receiver, client, receives, -, -, -, rfl⟩ := proper.mem_audience.mp present
    exact quiet receiver receives
  refine proper.outOfOrder_counters.trans ?_
  rw [List.map_congr_left nobody]
  simp

/-- What a pass counts are the sessions that it forwards under numbers below those on record. -/
theorem Chronicled.misorders_iff (chronicled : relay.Chronicled record)
    {order : VisitOrder} {busy : SessionKey → Bool} {began : Instant} (ended : Instant)
    {receiver sender : Peer} {data : Client}
    (receives : (relay.nextPass order busy began).directory.find? receiver.id = some receiver)
    (sends : (relay.nextPass order busy began).directory.find? sender.id = some sender)
    (given : sender.client = some data) :
    (relay.nextPass order busy began).misorders receiver.id (Candidate.of sender data) = true ↔
      ∃ number,
        relay.forwardedBy receiver.key sender.key (.tick order busy began ended) = some number ∧
        Sequence.outOfOrder ((record receiver.key sender.key).getD 0) number = true := by
  have proper := relay.proper_nextPass order busy began chronicled.traced.formed
  have latest : sender.latest = some data.sender.latest := by
    rw [Peer.latest, given]
    rfl
  have same : (Candidate.of sender data).id = sender.id := rfl
  rw [relay.forwardedBy_of_found receives sends, Pass.misorders, same]
  cases forwarded :
      Parcel.forwards (relay.nextPass order busy began).mail receiver.id sender.id with
  | false => simp
  | true =>
    obtain ⟨client, _, meets⟩ := proper.meets_of_forwards receives sends forwarded
    have last :
        ((relay.nextPass order busy began).directory.receiverOf receiver.id).lastFrom sender.id =
        (record receiver.key sender.key).getD 0 := by
      rw [← chronicled.lastForwarded meets, Directory.receiverOf, Directory.client?, receives,
        Option.bind_some, Peer.lastForwarded, meets.known]
      rfl
    rw [last, if_pos rfl, Bool.true_and, latest]
    constructor
    · exact fun disordered => ⟨_, rfl, disordered⟩
    · rintro ⟨number, held, disordered⟩
      cases held
      exact disordered

/-- A pass counts nobody exactly if it forwards no session under a number below that on
record. -/
theorem Chronicled.quiet_iff (chronicled : relay.Chronicled record) (order : VisitOrder)
    (busy : SessionKey → Bool) (began ended : Instant) :
    (∀ receiver, (relay.nextPass order busy began).directory.find? receiver.id = some receiver →
      (relay.nextPass order busy began).disorder receiver.id = 0) ↔
    relay.InOrder record (.tick order busy began ended) := by
  have proper := relay.proper_nextPass order busy began chronicled.traced.formed
  constructor
  · intro quiet receiver sender number forwarded
    rw [Bool.eq_false_iff]
    intro disordered
    obtain ⟨own, other, found, foundOther, latest⟩ := forwardedBy_tick forwarded
    obtain rfl := proper.keyed.key_of_findSession? found
    obtain rfl := proper.keyed.key_of_findSession? foundOther
    have receives := ((Directory.findSession?_eq_some_iff _).mp found).1
    have sends := ((Directory.findSession?_eq_some_iff _).mp foundOther).1
    obtain ⟨data, given, -⟩ := Option.map_eq_some_iff.mp latest
    have counted := (chronicled.misorders_iff ended receives sends given).mpr
      ⟨number, forwarded, disordered⟩
    obtain ⟨client, _, meets⟩ :=
      proper.meets_of_forwards receives sends ((Bool.and_eq_true _ _).mp counted).1
    obtain rfl := Option.some.inj (given.symm.trans meets.given)
    have present := (proper.present_of_meets meets).2
    exact List.countP_eq_zero.mp (quiet own receives) _ present counted
  · intro ordered receiver receives
    refine List.countP_eq_zero.mpr fun other present counted => ?_
    obtain ⟨sender, data, sends, -, -, given, rfl⟩ := proper.mem_audience.mp present
    obtain ⟨number, forwarded, disordered⟩ :=
      (chronicled.misorders_iff ended receives sends given).mp counted
    rw [ordered _ _ _ forwarded] at disordered
    cases disordered

/-- An operation on an orderly relay counts nobody exactly if it forwards no session under a
number below that on record. -/
theorem Chronicled.orderly_apply_iff (chronicled : relay.Chronicled record)
    (orderly : relay.Orderly) (operation : Operation) :
    ((relay.apply operation).Orderly ∧
      ∀ counters ∈ relay.countersOf operation, counters.outOfOrder = 0) ↔
    relay.InOrder record operation := by
  have formed := chronicled.traced.formed
  cases operation with
  | tick order busy began ended =>
    rw [← chronicled.quiet_iff, countersOf, List.forall_mem_singleton]
    constructor
    · exact fun still => (orderly.tick_iff formed order busy began ended).mp still.1
    · exact fun quiet => ⟨(orderly.tick_iff formed order busy began ended).mpr quiet,
        outOfOrder_tick formed order busy began ended quiet⟩
  | connect _ _ | receive _ _ _ | disconnect _ | rewire _ =>
    exact iff_of_true ⟨orderly.apply formed rfl, fun _ listed => nomatch listed⟩
      fun _ _ _ forwarded => nomatch forwarded

/-- A run from an orderly relay counts nobody exactly if none of its operations does. -/
theorem Chronicled.orderly_run_iff (chronicled : relay.Chronicled record)
    (orderly : relay.Orderly) (operations : List Operation) :
    ((∀ counters ∈ relay.countersIn operations, counters.outOfOrder = 0) ∧
      AtEvery (fun earlier operation => (relay.run (earlier ++ [operation])).Orderly)
        operations) ↔
    AtEvery (fun earlier operation => (relay.run earlier).InOrder
      (fun receiver sender =>
        (relay.lastForward receiver sender earlier).or (record receiver sender)) operation)
      operations := by
  induction operations generalizing relay record with
  | nil => simp [countersIn]
  | cons operation rest ih =>
    have step := chronicled.orderly_apply_iff orderly operation
    rw [atEvery_cons, atEvery_cons, countersIn, List.forall_mem_append]
    simp only [lastForward, Option.or_assoc, Option.none_or]
    constructor
    · rintro ⟨⟨counted, later⟩, still, after⟩
      exact ⟨step.mp ⟨still, counted⟩, (ih (chronicled.apply operation) still).mp ⟨later, after⟩⟩
    · rintro ⟨ordered, later⟩
      obtain ⟨still, counted⟩ := step.mpr ordered
      obtain ⟨quiet, after⟩ := (ih (chronicled.apply operation) still).mpr later
      exact ⟨⟨counted, quiet⟩, still, after⟩

/-- The numbers that were accepted of a session when it is forwarded to another again have not
gone all the way round since it was forwarded before. -/
def Paced (relay : Relay) : List Operation → Prop :=
  AtEvery fun earlier operation => ∀ receiver sender sent,
    (relay.run earlier).forwardedBy receiver sender operation ≠ none →
    relay.lastForward receiver sender earlier = some sent →
      Sequence.advance sent (relay.news receiver sender [] earlier) < 65536

/-- An operation forwards a session to another again whose numbers have passed zero since it was
forwarded before. -/
def Wraps (relay : Relay) (earlier : List Operation) (operation : Operation) : Prop :=
  ∃ receiver sender sent, (relay.run earlier).forwardedBy receiver sender operation ≠ none ∧
    relay.lastForward receiver sender earlier = some sent ∧
    Sequence.PassesZero sent (relay.news receiver sender [] earlier)

/-- What a tick forwards is the last of what is new, or what was forwarded before. -/
theorem Informs.number_of_forwardedBy {sender : SessionKey} {sent : Option SequenceNumber}
    {news : List SequenceNumber} (informs : relay.Informs sender sent news)
    {receiver : SessionKey} {operation : Operation} {number : SequenceNumber}
    (forwarded : relay.forwardedBy receiver sender operation = some number) :
    number = news.getLastD (sent.getD 0) := by
  cases operation with
  | tick order busy began ended =>
    obtain ⟨-, peer, -, found, latest⟩ := forwardedBy_tick forwarded
    obtain rfl := (relay.wellFormed_beforePass order busy began
      informs.formed).keyed.key_of_findSession? found
    have follows := informs.follows_beforePass ((Directory.findSession?_eq_some_iff _).mp found).1
    obtain ⟨client, given, own⟩ := Option.map_eq_some_iff.mp latest
    rw [← follows.latest, Peer.sender_of_client given]
    exact own.symm
  | connect _ _ | receive _ _ _ | disconnect _ | rewire _ => cases forwarded

/-- While numbers do not go all the way round, they are forwarded in order exactly if they do not
pass zero. -/
theorem inOrder_iff_not_wraps (config : Config) (fanout : Fanout) (earlier : List Operation)
    (operation : Operation) :
    let start := Relay.opened config fanout
    (∀ receiver sender sent, (start.run earlier).forwardedBy receiver sender operation ≠ none →
      start.lastForward receiver sender earlier = some sent →
        Sequence.advance sent (start.news receiver sender [] earlier) < 65536) →
    ((start.run earlier).InOrder (start.lastForward · · earlier) operation ↔
      ¬ start.Wraps earlier operation) := by
  intro start paced
  -- The number that is forwarded is the last of the news since the one that was sent.
  have ends {receiver sender : SessionKey} {number sent : SequenceNumber}
      (forwarded : (start.run earlier).forwardedBy receiver sender operation = some number)
      (shown : start.lastForward receiver sender earlier = some sent) :
      Sequence.outOfOrder sent number = true ↔
        Sequence.PassesZero sent (start.news receiver sender [] earlier) := by
    have informs := (Informs.opened config fanout sender).run receiver earlier
    have last := informs.number_of_forwardedBy forwarded
    rw [show (Relay.opened config fanout).lastForward receiver sender earlier = some sent from
      shown, Option.some_or, Option.getD_some] at last
    rw [last]
    exact Sequence.outOfOrder_iff_passesZero
      (paced receiver sender sent (by rw [forwarded]; exact Option.some_ne_none _) shown)
  constructor
  · rintro ordered ⟨receiver, sender, sent, again, shown, passes⟩
    obtain ⟨number, forwarded⟩ := Option.ne_none_iff_exists'.mp again
    have kept : Sequence.outOfOrder ((start.lastForward receiver sender earlier).getD 0) number =
        false := ordered receiver sender number forwarded
    rw [shown, Option.getD_some, (ends forwarded shown).mpr passes] at kept
    cases kept
  · intro never receiver sender number forwarded
    change Sequence.outOfOrder ((start.lastForward receiver sender earlier).getD 0) number = false
    cases shown : start.lastForward receiver sender earlier with
    | none => exact Sequence.outOfOrder_zero number
    | some sent =>
      rw [Bool.eq_false_iff]
      intro disordered
      exact never ⟨receiver, sender, sent, by rw [forwarded]; exact Option.some_ne_none _, shown,
        (ends forwarded shown).mp disordered⟩

end Relay

/-- Updates that come in order are counted as out of order where their numbers pass zero. Let the
numbers that are accepted of a session never go all the way round between two forwards to the same
receiver. Then no tick of a run counts anyone as out of order, and no receiver ever does, of one
pass or of all, exactly if whenever a session is forwarded again its numbers have not passed zero
since, unless they set out from the largest number of all. -/
theorem order_of_run (config : Config) (fanout : Fanout) {operations : List Relay.Operation}
    (paced : (Relay.opened config fanout).Paced operations) :
    let start := Relay.opened config fanout
    ((∀ counters ∈ start.countersIn operations, counters.outOfOrder = 0) ∧
      Relay.AtEvery (fun earlier operation => (start.run (earlier ++ [operation])).Orderly)
        operations) ↔
    Relay.AtEvery (fun earlier operation => ¬ start.Wraps earlier operation) operations := by
  intro start
  have counted := (Relay.Chronicled.opened config fanout).orderly_run_iff
    (Relay.orderly_opened config fanout) operations
  simp only [Option.or_none] at counted
  refine counted.trans (Relay.atEvery_congr fun earlier operation later split => ?_)
  exact Relay.inOrder_iff_not_wraps config fanout earlier operation
    (paced earlier operation later split)

/-- One of two agents sends three updates, each numbered one after the last, of which the other is
forwarded the first and the third. Their numbers pass zero, and so the third is counted as out of
order. -/
theorem order_of_three_updates :
    let start := Relay.opened Config.standard (Fanout.ofSeed Config.standard.fanoutSettings 0)
    let sends (number : SequenceNumber) : Relay.Operation :=
      .receive Relay.secondAgent (InboundPacket.format.write (.avatarData number default)) 0
    let tick (now : Instant) : Relay.Operation := .tick .ascending (fun _ => false) now now
    let earlier : List Relay.Operation :=
      [.rewire (((Loopback.new 0).setAddress Relay.firstAgent true).setAddress Relay.secondAgent
          true),
        .connect Relay.firstAgent .agent, .connect Relay.secondAgent .agent,
        .receive Relay.firstAgent (InboundPacket.format.write (.avatarData 1 default)) 0,
        sends 65534, tick 0, sends 65535, sends 0]
    let operations := earlier ++ [tick 1]
    ¬ ((∀ counters ∈ start.countersIn operations, counters.outOfOrder = 0) ∧
      Relay.AtEvery (fun earlier operation => (start.run (earlier ++ [operation])).Orderly)
        operations) := by
  intro start sends tick earlier operations
  let keys : List SessionKey := [⟨Relay.firstAgent, 1⟩, ⟨Relay.secondAgent, 2⟩]
  have connected : ∀ peer ∈
      ((start.run earlier).nextPass .ascending (fun _ => false) 1).directory.toList,
      peer.key ∈ keys := by decide +kernel
  have formed : (start.run earlier).directory.WellFormed :=
    Relay.wellFormed_run Directory.WellFormed.empty earlier
  have keyed := (Relay.proper_nextPass _ .ascending (fun _ => false) 1 formed).keyed
  have among {key : SessionKey} {peer : Peer} (found : ((start.run earlier).nextPass
      .ascending (fun _ => false) 1).directory.findSession? key = some peer) : key ∈ keys := by
    rw [← keyed.key_of_findSession? found]
    exact connected peer ((Directory.mem_toList _).mpr
      ⟨_, ((Directory.findSession?_eq_some_iff _).mp found).1⟩)
  have short : ∀ receiver ∈ keys, ∀ sender ∈ keys,
      (start.lastForward receiver sender earlier).all (fun sent =>
        Sequence.advance sent (start.news receiver sender [] earlier) < 65536) = true := by
    decide +kernel
  have paced : start.Paced operations := by
    simp only [Relay.Paced, operations, earlier, List.cons_append, List.nil_append,
      Relay.atEvery_cons, Relay.atEvery_nil, and_true]
    refine ⟨?_, ?_, ?_, ?_, ?_, ?first, ?_, ?_, ?second⟩
    case first =>
      intro receiver sender sent _ shown
      cases shown
    case second =>
      intro receiver sender sent again shown
      obtain ⟨number, forwarded⟩ := Option.ne_none_iff_exists'.mp again
      obtain ⟨own, other, found, foundOther, -⟩ := Relay.forwardedBy_tick forwarded
      have near := short receiver (among found) sender (among foundOther)
      exact of_decide_eq_true ((Option.all_eq_true _ _).mp near sent shown)
    all_goals exact fun _ _ _ again => absurd rfl again
  have passes : start.Wraps earlier (tick 1) :=
    ⟨⟨Relay.firstAgent, 1⟩, ⟨Relay.secondAgent, 2⟩, 65534, by decide +kernel, by decide +kernel,
      by decide +kernel, by decide +kernel⟩
  intro counted
  exact (order_of_run _ _ paced).mp counted earlier (tick 1) [] rfl passes

end AvatarRelay
