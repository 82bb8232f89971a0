/-
# Contention

A peer whose client data is in use is left out of a pass, as a receiver and as a sender.
Whether a candidate is busy is asked before any chance is drawn and before anything is
noted of it, so the pass goes as if the busy peers were absent; only the counter of those
left out tells the difference. The two passes are run side by side, and their states
mirror each other turn after turn.
-/

import AvatarRelay.Proofs.Batches
import Mathlib.Data.List.Basic
import Mathlib.Data.List.ProdSigma

namespace AvatarRelay

namespace Counters

variable (counters : Counters)

/-- The counters after some more receivers or candidates were left out. -/
def missing (count : Nat) : Counters :=
  { counters with contended := counters.contended + UInt64.ofNat count }

@[simp]
theorem missing_zero : counters.missing 0 = counters := by
  simp [missing]

theorem missing_missing (first second : Nat) :
    (counters.missing first).missing second = counters.missing (first + second) := by
  simp only [missing, UInt64.ofNat_add, UInt64.add_assoc]

end Counters

namespace PassContext

variable (context : PassContext)

def freed : PassContext :=
  { context with busy := fun _ => false }

/-- A receiver misses a candidate: they are not kept apart, but the candidate is busy. -/
def misses (own other : Candidate) : Bool :=
  !own.apart other && context.busy other.id

def free (others : List Candidate) : List Candidate :=
  others.filter fun other => !context.busy other.id

theorem free_cons (first : Candidate) (rest : List Candidate) :
    context.free (first :: rest) =
      if context.busy first.id then context.free rest else first :: context.free rest := by
  rw [free, List.filter_cons]
  cases context.busy first.id <;> rfl

/-- How many are left out when some receivers have their turns: the busy receivers, and for
each of the others the candidates that it misses. -/
def missesOf (receivers audience : List Candidate) : Nat :=
  receivers.countP (fun own => context.busy own.id) +
    (receivers ×ˢ audience).countP fun pair =>
      !context.busy pair.1.id && context.misses pair.1 pair.2

theorem missesOf_cons (own : Candidate) (receivers audience : List Candidate) :
    context.missesOf (own :: receivers) audience =
      (if context.busy own.id then 1 else audience.countP (context.misses own)) +
        context.missesOf receivers audience := by
  simp only [missesOf, List.countP_cons, List.product_cons, List.countP_append, List.countP_map,
    Function.comp_def]
  cases context.busy own.id with
  | true =>
    simp only [Bool.not_true, Bool.false_and, List.countP_false, Function.const_apply, if_true]
    omega
  | false =>
    simp only [Bool.not_false, Bool.true_and, Bool.false_eq_true, if_false]
    exact Nat.add_left_comm _ _ _

end PassContext

namespace Visit

variable (context : PassContext) (own other : Candidate) (visit : Visit) (count : Nat)

def missing : Visit :=
  { visit with counters := visit.counters.missing count }

@[simp]
theorem missing_zero : visit.missing 0 = visit := by
  rw [missing, Counters.missing_zero]

theorem missing_missing (first second : Nat) :
    (visit.missing first).missing second = visit.missing (first + second) := by
  simp only [missing, Counters.missing_missing]

theorem contended_missing : (visit.missing count).contended = visit.contended.missing count := by
  have one (visit : Visit) : visit.contended = visit.missing 1 := rfl
  rw [one, one, missing_missing, missing_missing, Nat.add_comm]

theorem markMuted_missing (muted : Bool) :
    (visit.missing count).markMuted other.id muted =
      (visit.markMuted other.id muted).missing count := by
  cases muted <;> rfl

theorem unmuted_missing :
    (visit.missing count).unmuted context other = (visit.unmuted context other).missing count := by
  unfold unmuted introduce
  cases other.avatar.identity <;> rfl

theorem admits_missing :
    (visit.missing count).admits context own other = visit.admits context own other := by
  rw [admits, admits, chanceOfAdmission, chanceOfAdmission, unmuted_missing]
  rfl

theorem considered_missing :
    (visit.missing count).considered context own other =
      (visit.considered context own other).missing count := by
  rw [considered, considered, chanceOfFullness, chanceOfFullness, chanceOfAdmission,
    chanceOfAdmission, unmuted_missing]
  rfl

theorem forward_missing :
    (visit.missing count).forward context other =
      (visit.forward context other).missing count := by
  have same : (visit.missing count).receiver = visit.receiver := rfl
  simp only [forward, same]
  cases Sequence.outOfOrder (visit.receiver.lastFrom other.id) other.sender.latest <;>
    cases Sequence.standing (visit.receiver.lastFrom other.id) other.sender.latest <;> rfl

theorem next_missing :
    (visit.missing count).next context own other =
      (visit.next context own other).missing count := by
  rw [next_eq, next_eq, admits_missing, considered_missing]
  split
  · rfl
  split
  · exact contended_missing visit count
  split
  · exact markMuted_missing other visit count true
  split
  · exact forward_missing context other _ count
  · rfl

theorem foldl_missing (others : List Candidate) :
    others.foldl (next context own) (visit.missing count) =
      (others.foldl (next context own) visit).missing count := by
  induction others generalizing visit with
  | nil => rfl
  | cons first rest ih => rw [List.foldl_cons, next_missing, ih, List.foldl_cons]

section One

variable {context other}

theorem next_of_busy (occupied : context.busy other.id = true) :
    visit.next context own other =
      visit.missing (if context.misses own other then 1 else 0) := by
  cases apart : own.apart other with
  | true => simp [next, PassContext.misses, apart]
  | false =>
    simp only [next, PassContext.misses, apart, occupied, Bool.false_eq_true, if_false,
      if_true, Bool.not_false, Bool.and_self]
    rfl

theorem next_of_free (unoccupied : context.busy other.id = false) :
    visit.next context own other = visit.next context.freed own other := by
  simp only [next, unoccupied]
  rfl

end One

theorem contended_next_freed :
    (visit.next context.freed own other).counters.contended = visit.counters.contended := by
  have considered : (visit.considered context.freed own other).counters.contended =
      visit.counters.contended := by
    unfold Visit.considered unmuted introduce
    cases other.avatar.identity <;> rfl
  have forwarded (visit : Visit) :
      (visit.forward context.freed other).counters.contended = visit.counters.contended := by
    simp only [forward]
    cases Sequence.outOfOrder (visit.receiver.lastFrom other.id) other.sender.latest <;>
      cases Sequence.standing (visit.receiver.lastFrom other.id) other.sender.latest <;> rfl
  rw [next_eq]
  split
  · rfl
  split
  · next occupied => cases occupied
  split
  · rfl
  split
  · rw [forwarded, considered]
  · exact considered

theorem contended_foldl_freed (others : List Candidate) :
    (others.foldl (next context.freed own) visit).counters.contended =
      visit.counters.contended := by
  induction others generalizing visit with
  | nil => rfl
  | cons first rest ih => rw [List.foldl_cons, ih, contended_next_freed]

/-- All the visits of a turn are those to the free candidates, with each busy one counted
that is not kept apart. -/
theorem foldl_free (others : List Candidate) :
    others.foldl (next context own) visit =
      ((context.free others).foldl (next context.freed own) visit).missing
        (others.countP (context.misses own)) := by
  induction others generalizing visit with
  | nil => exact (missing_zero visit).symm
  | cons first rest ih =>
    rw [List.foldl_cons, List.countP_cons, context.free_cons]
    cases occupied : context.busy first.id with
    | true =>
      rw [next_of_busy own visit occupied, foldl_missing, ih, missing_missing]
      rfl
    | false =>
      have seen : context.misses own first = false := by
        rw [PassContext.misses, occupied, Bool.and_false]
      rw [next_of_free own visit occupied, ih, seen]
      rfl

end Visit

namespace PassState

/-- The state of a pass mirrors that of a pass without the busy peers: it differs in how many
were left out, and in what it has of the busy peers. -/
structure Mirrors (busy : PeerId → Bool) (count : Nat) (whole rest : PassState) : Prop where
  transport : whole.transport = rest.transport
  random : whole.random = rest.random
  counters : whole.counters = rest.counters.missing count
  /-- The pass without the busy peers leaves nobody out. -/
  uncontended : rest.counters.contended = 0
  directory : ∀ id, busy id = false → whole.directory.find? id = rest.directory.find? id

namespace Mirrors

variable {busy : PeerId → Bool} {count : Nat} {whole rest : PassState}
  (mirrors : Mirrors busy count whole rest)

include mirrors

theorem client? {id : PeerId} (free : busy id = false) :
    whole.directory.client? id = rest.directory.client? id := by
  rw [Directory.client?, mirrors.directory id free, Directory.client?]

theorem send (destination : PeerId) (packet : OutboundPacket) :
    (whole.send destination packet).1 = (rest.send destination packet).1 ∧
      Mirrors busy count (whole.send destination packet).2
        (rest.send destination packet).2 := by
  obtain ⟨directory, transport, random, counters⟩ := whole
  obtain ⟨rfl, rfl, rfl, uncontended, same⟩ := mirrors
  simp only [PassState.send]
  cases rest.transport.send destination packet with
  | ok sent => exact ⟨rfl, rfl, rfl, rfl, uncontended, same⟩
  | error refused => exact ⟨rfl, rfl, rfl, rfl, uncontended, same⟩

theorem sendIdentities (destination : PeerId) (packets : List OutboundPacket) :
    Mirrors busy count (whole.sendIdentities destination packets)
      (rest.sendIdentities destination packets) := by
  have sent : ∀ (packets : List OutboundPacket) (whole rest : PassState),
      Mirrors busy count whole rest →
      Mirrors busy count
        (packets.foldl (fun state packet => (state.send destination packet).2) whole)
        (packets.foldl (fun state packet => (state.send destination packet).2) rest) := by
    intro packets
    induction packets with
    | nil => exact fun _ _ mirrors => mirrors
    | cons packet later ih =>
      exact fun _ _ mirrors => ih _ _ (mirrors.send destination packet).2
  obtain ⟨directory, transport, random, counters⟩ := whole
  obtain ⟨rfl, rfl, rfl, uncontended, same⟩ := mirrors
  exact sent packets _ _ ⟨rfl, rfl, rfl, uncontended, same⟩

theorem sendBatch (destination : PeerId) (batch : Batch) (now : Instant) (receiver : Receiver) :
    (whole.sendBatch destination batch now receiver).1 =
        (rest.sendBatch destination batch now receiver).1 ∧
      Mirrors busy count (whole.sendBatch destination batch now receiver).2
        (rest.sendBatch destination batch now receiver).2 := by
  have counted (size : UInt64) :
      Mirrors busy count
        { whole with counters := { whole.counters with
            avatarsSent := whole.counters.avatarsSent + size } }
        { rest with counters := { rest.counters with
            avatarsSent := rest.counters.avatarsSent + size } } := by
    obtain ⟨directory, transport, random, counters⟩ := whole
    obtain ⟨rfl, rfl, rfl, uncontended, same⟩ := mirrors
    exact ⟨rfl, rfl, rfl, uncontended, same⟩
  obtain ⟨answer, sent⟩ :=
    (counted (UInt64.ofNat batch.size)).send destination (.bulkAvatarData batch)
  simp only [PassState.sendBatch]
  split
  · exact ⟨rfl, counted _⟩
  · revert answer sent
    generalize PassState.send { whole with counters := _ } _ _ = first
    generalize PassState.send { rest with counters := _ } _ _ = second
    obtain ⟨taken, first⟩ := first
    obtain ⟨_, second⟩ := second
    rintro rfl sent
    cases taken with
    | some bytes => exact ⟨rfl, sent⟩
    | none => exact ⟨rfl, sent⟩

theorem finish (id : PeerId) {first second : Receiver} (same : first = second) :
    Mirrors busy count (whole.finish id first) (rest.finish id second) := by
  subst same
  obtain ⟨directory, transport, random, counters⟩ := whole
  obtain ⟨rfl, rfl, rfl, uncontended, same⟩ := mirrors
  refine ⟨rfl, rfl, rfl, uncontended, fun other free => ?_⟩
  simp only [PassState.finish, Directory.find?_modifyClient]
  rw [same other free]

end Mirrors

end PassState

namespace Fanout

variable {context : PassContext} {count : Nat} {whole rest : PassState}
  (mirrors : PassState.Mirrors context.busy count whole rest) (audience : List Candidate)

include mirrors in
theorem visits_of_mirrors (own : Candidate) (receiver : Receiver) :
    visits context audience own receiver whole =
      (visits context.freed (context.free audience) own receiver rest).missing
        (count + audience.countP (context.misses own)) := by
  let start := Visit.start (receiver.prepare context.settings.controller context.now)
    rest.random rest.counters
  calc visits context audience own receiver whole
    _ = audience.foldl (Visit.next context own) (start.missing count) := by
        rw [visits, mirrors.random, mirrors.counters]
        rfl
    _ = (((context.free audience).foldl (Visit.next context.freed own) start).missing
          (audience.countP (context.misses own))).missing count := by
        rw [Visit.foldl_missing, Visit.foldl_free]
    _ = _ := by
        rw [Visit.missing_missing, Nat.add_comm]
        rfl

include mirrors in
theorem mirrors_conclude (own : Candidate) (now : Instant) {visit : Visit} (missed : Nat)
    (uncontended : visit.counters.contended = 0) :
    PassState.Mirrors context.busy missed (conclude own now (visit.missing missed) whole)
      (conclude own now visit rest) := by
  have visited : PassState.Mirrors context.busy missed
      { whole with
        random := (visit.missing missed).random, counters := (visit.missing missed).counters }
      { rest with random := visit.random, counters := visit.counters } :=
    ⟨mirrors.transport, rfl, rfl, uncontended, mirrors.directory⟩
  obtain ⟨measured, sent⟩ := (visited.sendIdentities own.id visit.identities).sendBatch own.id
    visit.batch now (visit.receiver.noteFarthest visit.farthest)
  exact sent.finish own.id measured

include mirrors in
/-- A free receiver's turn in both passes. -/
theorem mirrors_turn_of_free {own : Candidate} {client : Client}
    (free : context.busy own.id = false) (known : whole.directory.client? own.id = some client) :
    PassState.Mirrors context.busy (count + audience.countP (context.misses own))
      (turn context audience whole own)
      (turn context.freed (context.free audience) rest own) := by
  have uncontended := (Visit.contended_foldl_freed context own
    (Visit.start (client.receiver.prepare context.settings.controller context.now) rest.random
      rest.counters) (context.free audience)).trans mirrors.uncontended
  have left : turn context audience whole own =
      serve context audience own client.receiver whole := by
    rw [turn, free, known]
    rfl
  have right : turn context.freed (context.free audience) rest own =
      serve context.freed (context.free audience) own client.receiver rest := by
    rw [turn, ← mirrors.client? free, known]
    rfl
  rw [left, right, serve_eq, serve_eq, visits_of_mirrors mirrors]
  exact mirrors_conclude mirrors own context.now _ uncontended

include mirrors in
/-- A busy receiver's turn, which only one of the passes has. -/
theorem mirrors_turn_of_busy {own : Candidate} (occupied : context.busy own.id = true) :
    PassState.Mirrors context.busy (count + 1) (turn context audience whole own) rest := by
  have left : turn context audience whole own =
      { whole with counters := whole.counters.missing 1 } := if_pos occupied
  rw [left]
  refine ⟨mirrors.transport, mirrors.random, ?_, mirrors.uncontended, mirrors.directory⟩
  rw [mirrors.counters, Counters.missing_missing]

include mirrors in
/-- The turns of several receivers in both passes. -/
theorem mirrors_foldl (receivers : List Candidate)
    (attending : ∀ own ∈ receivers, (whole.directory.client? own.id).isSome = true) :
    PassState.Mirrors context.busy (count + context.missesOf receivers audience)
      (receivers.foldl (turn context audience) whole)
      ((context.free receivers).foldl (turn context.freed (context.free audience)) rest) := by
  induction receivers generalizing count whole rest with
  | nil => exact mirrors
  | cons own later ih =>
    have attended : ∀ other ∈ later,
        ((turn context audience whole own).directory.client? other.id).isSome = true := by
      intro other listed
      rw [isSome_client?_turn]
      exact attending other (List.mem_cons_of_mem _ listed)
    rw [List.foldl_cons, PassContext.missesOf_cons, context.free_cons, ← Nat.add_assoc]
    cases occupied : context.busy own.id with
    | true => exact ih (mirrors_turn_of_busy mirrors audience occupied) attended
    | false =>
      obtain ⟨client, known⟩ := Option.isSome_iff_exists.mp (attending own List.mem_cons_self)
      exact ih (mirrors_turn_of_free mirrors audience occupied known) attended

theorem find?_snapshotAll_of_free {busy : PeerId → Bool} (order : List PeerId)
    {first second : Directory}
    (same : ∀ id, busy id = false → first.find? id = second.find? id) {id : PeerId}
    (free : busy id = false) :
    (snapshotAll busy order first).find? id =
      (snapshotAll (fun _ => false) (order.filter fun id => !busy id) second).find? id := by
  induction order generalizing first second with
  | nil => exact same id free
  | cons next rest ih =>
    rw [List.filter_cons]
    cases occupied : busy next with
    | true =>
      rw [snapshotAll, List.foldl_cons, occupied]
      exact ih same
    | false =>
      rw [snapshotAll, List.foldl_cons, occupied]
      refine ih fun other unoccupied => ?_
      rw [if_neg Bool.false_ne_true, Directory.find?_modifyClient, same other unoccupied]
      exact (Directory.find?_modifyClient _ _ _ _).symm

end Fanout

/-! ## Counting over the peers -/

namespace Peer

/-- The peer takes part in a pass as far as it is not busy: it is an agent that can be
reached and has client data. -/
def attends (transport : Loopback) (peer : Peer) : Bool :=
  peer.reachable transport && peer.client.isSome

/-- Neither of two peers is ignoring the other. -/
def onTerms (peer other : Peer) : Bool :=
  !peer.isIgnoring other.id && !other.isIgnoring peer.id

end Peer

theorem Candidate.any_ofPeer? (transport : Loopback) (peer : Peer) (test : Candidate → Bool) :
    (ofPeer? transport peer).any test =
      (peer.reachable transport && peer.client.any fun client => test (of peer client)) := by
  rw [ofPeer?, ← Peer.reachable]
  cases peer.reachable transport with
  | true => exact Option.any_map
  | false => rfl

theorem countP_product_filterMap {Item Yield : Type} (yield? : Item → Option Yield)
    (test : Yield × Yield → Bool) (first second : List Item) :
    (first.filterMap yield? ×ˢ second.filterMap yield?).countP test =
      (first ×ˢ second).countP fun pair =>
        (yield? pair.1).any fun one => (yield? pair.2).any fun other => test (one, other) := by
  induction first with
  | nil => rfl
  | cons item rest ih =>
    rw [List.filterMap_cons, List.product_cons, List.countP_append, List.countP_map, ← ih,
      Function.comp_def]
    cases yields : yield? item with
    | none => simp [yields]
    | some one =>
      have each (other : Item) : ((yield? other).map fun other => test (one, other)).getD false =
          (yield? other).any fun other => test (one, other) := by
        cases yield? other <;> rfl
      rw [List.product_cons, List.countP_append, List.countP_map, List.countP_filterMap]
      simp only [Function.comp_def, each, yields, Option.any_some]

namespace Pass

variable {fanout : Fanout} {peers : List Peer} {busy : PeerId → Bool} {now : Instant}
  {transport : Loopback}

/-- Those who take part in a pass over some peers, in the order of the peers. -/
theorem audience_overPeers (distinct : (peers.map Peer.id).Nodup) :
    (overPeers fanout peers busy now transport).audience =
      peers.filterMap (Candidate.ofPeer? transport) := by
  rw [audience, Candidate.gather, overPeers, List.filterMap_map]
  apply List.filterMap_congr
  intro peer listed
  rw [Function.comp_apply, Directory.find?_ofPeers_of_mem distinct listed, Option.bind_some]

theorem filterMap_free (context : PassContext) :
    (peers.filter fun peer => !context.busy peer.id).filterMap (Candidate.ofPeer? transport) =
      context.free (peers.filterMap (Candidate.ofPeer? transport)) := by
  rw [PassContext.free, List.filter_filterMap, List.filterMap_filter]
  apply List.filterMap_congr
  intro peer _
  cases joined : Candidate.ofPeer? transport peer with
  | none => simp
  | some own =>
    obtain ⟨-, client, -, rfl⟩ := Candidate.ofPeer?_eq_some_iff.mp joined
    have own_id : (Candidate.of peer client).id = peer.id := rfl
    simp only [Option.filter_some, own_id]

/-- How many a pass over some peers leaves out. -/
theorem missesOf_overPeers (distinct : (peers.map Peer.id).Nodup) :
    let pass := overPeers fanout peers busy now transport
    pass.context.missesOf pass.audience pass.audience =
      peers.countP (fun peer => busy peer.id && peer.attends transport) +
        (peers ×ˢ peers).countP fun (receiver, sender) =>
          (!busy receiver.id && receiver.attends transport) &&
            (busy sender.id && sender.attends transport) && receiver.onTerms sender := by
  intro pass
  have counts (peer : Peer) :
      ((Candidate.ofPeer? transport peer).map fun own => busy own.id).getD false =
        (busy peer.id && peer.attends transport) := by
    have asked : ((Candidate.ofPeer? transport peer).map fun own => busy own.id).getD false =
        (Candidate.ofPeer? transport peer).any fun own => busy own.id := by
      cases Candidate.ofPeer? transport peer <;> rfl
    rw [asked, Candidate.any_ofPeer?, Peer.attends]
    cases peer.client with
    | none => simp
    | some client =>
      rw [Option.isSome_some, Bool.and_true]
      exact Bool.and_comm _ _
  have misses (receiver sender : Peer) :
      ((Candidate.ofPeer? transport receiver).any fun own =>
        (Candidate.ofPeer? transport sender).any fun other =>
          !busy own.id && pass.context.misses own other) =
        ((!busy receiver.id && receiver.attends transport) &&
          (busy sender.id && sender.attends transport) && receiver.onTerms sender) := by
    have apart (client data : Client) :
        (!busy (Candidate.of receiver client).id &&
          pass.context.misses (Candidate.of receiver client) (Candidate.of sender data)) =
        (!busy receiver.id && busy sender.id && receiver.onTerms sender) := by
      change (!busy receiver.id && (!(decide (receiver.id = sender.id) ||
        receiver.isIgnoring sender.id || sender.isIgnoring receiver.id) && busy sender.id)) = _
      by_cases same : receiver.id = sender.id
      · cases occupied : busy sender.id <;> simp [same, occupied]
      · cases busy receiver.id <;> simp [same, Peer.onTerms, Bool.and_comm]
    simp only [Candidate.any_ofPeer?, apart, Peer.attends]
    cases receiver.client with
    | none => simp
    | some client =>
      cases sender.client with
      | none => simp
      | some data =>
        simp only [Option.any_some, Option.isSome_some, Bool.and_true]
        ac_rfl
  rw [PassContext.missesOf, audience_overPeers distinct, List.countP_filterMap,
    countP_product_filterMap]
  exact congrArg₂ (· + ·) (congrArg (List.countP · peers) (funext counts))
    (congrArg (List.countP · (peers ×ˢ peers)) (funext fun pair => misses pair.1 pair.2))

/-- A pass over some peers mirrors that over those of them that are free. -/
theorem mirrors_overPeers (distinct : (peers.map Peer.id).Nodup) :
    let pass := overPeers fanout peers busy now transport
    PassState.Mirrors busy (pass.context.missesOf pass.audience pass.audience) pass.result.1
      (overPeers fanout (peers.filter fun peer => !busy peer.id) (fun _ => false) now
        transport).result.1 := by
  intro pass
  let rest := overPeers fanout (peers.filter fun peer => !busy peer.id) (fun _ => false) now
    transport
  have proper : pass.Proper := proper_overPeers distinct
  have distinctRest : ((peers.filter fun peer => !busy peer.id).map Peer.id).Nodup :=
    distinct.sublist (List.filter_sublist.map Peer.id)
  have free : rest.audience = pass.context.free pass.audience := by
    rw [audience_overPeers distinctRest, audience_overPeers distinct]
    exact filterMap_free pass.context
  have beginning : PassState.Mirrors pass.context.busy 0 pass.beginning rest.beginning := by
    refine ⟨rfl, rfl, (Counters.missing_zero _).symm, rfl, fun id unoccupied => ?_⟩
    change (Directory.ofPeers peers).find? id =
      (Directory.ofPeers (peers.filter fun peer => !busy peer.id)).find? id
    rw [Directory.find?_ofPeers, Directory.find?_ofPeers, List.find?_filter]
    congr 1
    funext peer
    by_cases here : peer.id = id
    · simp [here, show busy id = false from unoccupied]
    · simp [here]
  have attending : ∀ own ∈ pass.audience,
      (pass.beginning.directory.client? own.id).isSome = true := by
    intro own present
    obtain ⟨peer, client, found, -, -, known, rfl⟩ := proper.mem_audience.mp present
    rw [Directory.client?, show pass.beginning.directory.find? (Candidate.of peer client).id =
      some peer from found, Option.bind_some, known]
    rfl
  have served := Fanout.mirrors_foldl beginning pass.audience pass.audience attending
  rw [Nat.zero_add, ← free] at served
  refine ⟨served.transport, served.random, served.counters, served.uncontended, ?_⟩
  intro id unoccupied
  have order : (peers.filter fun peer => !busy peer.id).map Peer.id =
      (peers.map Peer.id).filter fun id => !busy id := by
    rw [List.filter_map]
    rfl
  refine (Fanout.find?_snapshotAll_of_free pass.order served.directory unoccupied).trans ?_
  change (Fanout.snapshotAll _ ((peers.map Peer.id).filter fun id => !busy id) _).find? id = _
  rw [← order]
  rfl

end Pass

/-- Contention equals absence. While the client data of some peers is in use, a pass over all
peers hands over what a pass over the others hands over, leaves their client data, the
stream of chance and the time of the pass the same, and does nothing to the busy ones. The
counters agree but for those left out: the busy peers that would have been served, and
the pairs of a served receiver and a busy sender that are not kept apart. -/
theorem contention_is_absence (fanout : Fanout) {peers : List Peer}
    (distinct : (peers.map Peer.id).Nodup) (busy : PeerId → Bool) (now : Instant)
    (transport : Loopback) :
    let free := peers.filter fun peer => !busy peer.id
    let whole := fanout.pass (peers.map Peer.id) busy now (Directory.ofPeers peers) transport
    let rest := fanout.pass (free.map Peer.id) (fun _ => false) now (Directory.ofPeers free)
      transport
    whole.2 = rest.2 ∧ whole.1.random = rest.1.random ∧
      (∃ mail, whole.1.transport = transport.deliverAll mail ∧
        rest.1.transport = transport.deliverAll mail ∧
        ∀ id, busy id = true → Parcel.packetsTo id mail = []) ∧
      (∀ peer ∈ peers, busy peer.id = false →
        whole.1.directory.find? peer.id = rest.1.directory.find? peer.id) ∧
      (∀ peer ∈ peers, busy peer.id = true →
        whole.1.directory.find? peer.id = some peer ∧
          whole.1.transport.link peer.id = transport.link peer.id) ∧
      rest.1.counters.contended = 0 ∧
      whole.1.counters = { rest.1.counters with
        contended := UInt64.ofNat
          (peers.countP (fun peer => busy peer.id && peer.attends transport) +
            (peers ×ˢ peers).countP fun (receiver, sender) =>
              (!busy receiver.id && receiver.attends transport) &&
                (busy sender.id && sender.attends transport) && receiver.onTerms sender) } := by
  intro free whole rest
  let wholePass := Pass.overPeers fanout peers busy now transport
  let restPass := Pass.overPeers fanout free (fun _ => false) now transport
  have distinctFree : (free.map Peer.id).Nodup :=
    distinct.sublist (List.filter_sublist.map Peer.id)
  have proper : wholePass.Proper := Pass.proper_overPeers distinct
  have mirrors : PassState.Mirrors busy _ whole.1 rest.1 := Pass.mirrors_overPeers distinct
  have mailed : rest.1.transport = transport.deliverAll restPass.mail :=
    (Pass.proper_overPeers distinctFree).transport_result
  have silent (id : PeerId) (occupied : busy id = true) :
      Parcel.packetsTo id restPass.mail = [] := by
    apply Pass.packetsTo_mail_of_absent
    intro joined
    obtain ⟨own, present, rfl⟩ := List.mem_map.mp joined
    obtain ⟨peer, listed, client, -, -, rfl⟩ :=
      (Pass.mem_audience_overPeers distinctFree).mp present
    have unoccupied := (List.mem_filter.mp listed).2
    rw [show busy peer.id = true from occupied] at unoccupied
    cases unoccupied
  refine ⟨?_, mirrors.random, ⟨restPass.mail, mirrors.transport.trans mailed, mailed, silent⟩,
    fun peer _ unoccupied => mirrors.directory peer.id unoccupied, ?_, mirrors.uncontended, ?_⟩
  · exact congrArg (Fanout.mk fanout.settings · (some now)) mirrors.random
  · intro peer listed occupied
    constructor
    · refine (proper.find?_result peer.id).trans ?_
      rw [show wholePass.directory.find? peer.id = some peer from
        Directory.find?_ofPeers_of_mem distinct listed, Option.map_some,
        Pass.passed_of_busy occupied]
    · rw [mirrors.transport, mailed, Loopback.link_deliverAll, silent peer.id occupied,
        Link.record_nil, ite_self]
  · rw [mirrors.counters, Pass.missesOf_overPeers distinct, Counters.missing,
      mirrors.uncontended, UInt64.zero_add]

/-- Of two agents that could hear each other the second is busy: it is left out twice, as a
receiver and as a sender, and the first is served as if it were alone. -/
theorem contention_among_two :
    let first := (Peer.new (PeerId.ofNat 1) .agent 1).withClient (Client.new default)
    let second := (Peer.new (PeerId.ofNat 2) .agent 2).withClient (Client.new default)
    let transport := ((Loopback.new 0).setAddress first.id true).setAddress second.id true
    let fanout := Fanout.ofSeed ⟨5000, 60, 0, 0⟩ 0
    (fanout.pass [first.id, second.id] (· = second.id) 0 (Directory.ofPeers [first, second])
        transport).1.counters =
      { (fanout.pass [first.id] (fun _ => false) 0 (Directory.ofPeers [first])
          transport).1.counters with contended := 2 } := by
  intro first second transport fanout
  have distinct : ([first, second].map Peer.id).Nodup := by decide +kernel
  obtain ⟨-, -, -, -, -, -, counted⟩ :=
    contention_is_absence fanout distinct (fun id => decide (id = second.id)) 0 transport
  exact counted

end AvatarRelay
