/-
# Rooms

What happens in a room: its peers send packets, addresses are found and lost, and from time
to time a pass is made. A chronicle is kept beside a run. It tells what the passes brought of
one peer to another, and from it that a receiver which goes on considering a sender holds the
sender's identity after every pass, where an unchanged one is never sent again by chance.
-/

import Mathlib.Data.List.TakeWhile
import AvatarRelay.Fanout.Room
import AvatarRelay.Proofs.Introductions

namespace AvatarRelay

theorem PeerMap.mem_of_getElem?_ofList {Value : Type} (entries : List (PeerId × Value))
    {id : PeerId} {value : Value}
    (found : (Std.ExtTreeMap.ofList entries : PeerMap Value)[id]? = some value) :
    (id, value) ∈ entries := by
  rw [Std.ExtTreeMap.ofList_eq_foldl] at found
  refine foldl_along (fun (map : PeerMap Value) entry => map.insert entry.1 entry.2)
    (fun earlier map => map[id]? = some value → (id, value) ∈ earlier) entries (by simp) ?_ found
  intro earlier entry later _ held there
  rw [PeerMap.getElem?_insert_eq] at there
  split at there
  · next here =>
    rw [here, ← Option.some.inj there]
    exact List.mem_append_right _ List.mem_cons_self
  · exact List.mem_append_left _ (held there)

namespace Directory

theorem Keyed.modify {directory : Directory} (keyed : directory.Keyed) (id : PeerId)
    {change : Peer → Peer} (kept : ∀ peer, (change peer).key = peer.key) :
    (directory.modify id change).Keyed := by
  intro other peer found
  rw [find?_modify] at found
  split at found
  · obtain ⟨before, there, rfl⟩ := Option.map_eq_some_iff.mp found
    exact (Peer.id_eq_of_key (kept before)).trans (keyed there)
  · exact keyed found

end Directory

namespace Client

variable (client : Client)

theorem identity_applyUpdate (number : SequenceNumber) (pose : Pose) (bytes : Nat)
    (now : Instant) :
    let after := (client.applyUpdate number pose bytes now).1
    after.avatar.identity = client.avatar.identity ∧
      after.sender.identityChanged = client.sender.identityChanged := by
  unfold applyUpdate Avatar.applyPose?
  dsimp only
  split
  · exact ⟨rfl, rfl⟩
  split
  · exact ⟨rfl, rfl⟩
  next taken =>
  split at taken
  · cases taken
  · cases taken
    exact ⟨rfl, rfl⟩

/-- An identity that is held already changes nothing; any other one is taken over and
stamped. -/
theorem applyIdentity_spec (identity : Identity) (now : Instant) :
    let after := (client.applyIdentity identity now).1
    (client.avatar.identity = some identity ∧ after = client) ∨
    (client.avatar.identity ≠ some identity ∧ after.avatar.identity = some identity ∧
      after.sender.identityChanged = some now) := by
  unfold applyIdentity Avatar.applyIdentity?
  by_cases held : client.avatar.identity = some identity
  · rw [if_pos held]
    exact Or.inl ⟨held, rfl⟩
  · rw [if_neg held]
    exact Or.inr ⟨held, rfl, rfl⟩

end Client

namespace Peer

/-- What client data says of the identity of its peer, and whom the peer knows. -/
structure Shows (peer : Peer) (client : Client) : Prop where
  identity : peer.identity? = client.avatar.identity
  changed : peer.sender.identityChanged = client.sender.identityChanged
  knows : ∀ other, peer.knows other = client.receiver.introduced.contains other

theorem shows_of_client {peer : Peer} {client : Client} (given : peer.client = some client) :
    peer.Shows client := by
  refine ⟨?_, ?_, fun other => ?_⟩
  · rw [identity?, avatar?, given]
    rfl
  · rw [sender_of_client given]
  · rw [knows, given, Option.any_some]

/-- A peer without client data is as one with new client data. -/
theorem shows_of_none {peer : Peer} (none : peer.client = none) (bounds : ScaleBounds) :
    peer.Shows (Client.new bounds) := by
  refine ⟨?_, ?_, fun other => ?_⟩
  · rw [identity?, avatar?, none]
    rfl
  · rw [sender, none]
    rfl
  · rw [knows, none]
    exact Std.ExtTreeSet.contains_empty.symm

/-- Client data that comes into being says what is true of a peer without any. -/
theorem shows_of_client? {bounds : ScaleBounds} {peer : Peer} {client : Client}
    (given : peer.client? bounds = some client) : peer.Shows client := by
  unfold client? at given
  split at given
  · cases known : peer.client with
    | some held =>
      rw [known] at given
      exact shows_of_client (known.trans given)
    | none =>
      rw [known] at given
      cases given
      exact shows_of_none known bounds
  · cases given

/-- A peer that nothing came from and nothing was sent to: it has new client data, or none. -/
def Fresh (peer : Peer) : Prop :=
  ∀ client, peer.client = some client → ∃ bounds, client = Client.new bounds

theorem fresh_withClient (peer : Peer) (bounds : ScaleBounds) :
    (peer.withClient (Client.new bounds)).Fresh :=
  fun _ known => ⟨bounds, (Option.some.inj known).symm⟩

theorem Fresh.shows {peer : Peer} (fresh : peer.Fresh) :
    ∃ bounds, peer.Shows (Client.new bounds) := by
  cases known : peer.client with
  | none => exact ⟨default, shows_of_none known default⟩
  | some client =>
    obtain ⟨bounds, rfl⟩ := fresh client known
    exact ⟨bounds, shows_of_client known⟩

variable (bounds : ScaleBounds) (packet : InboundPacket) (bytes : Nat) (now : Instant)
  (peer : Peer)

theorem knows_sending (other : PeerId) :
    (peer.sending bounds packet bytes now).knows other = peer.knows other := by
  rcases peer.client_sending bounds packet bytes now with
    ⟨number, pose, client, -, given, after⟩ | ⟨identity, client, -, given, after⟩ | ⟨-, after⟩
  · rw [(shows_of_client after).knows, (shows_of_client? given).knows,
      client.receiver_applyUpdate]
  · rw [(shows_of_client after).knows, (shows_of_client? given).knows,
      client.receiver_applyIdentity]
  · rw [knows, after, knows]

/-- A packet leaves the identity of its sender as it is, or it brings another one and stamps
it. -/
theorem identity_sending :
    let after := peer.sending bounds packet bytes now
    (after.identity? = peer.identity? ∧
      after.sender.identityChanged = peer.sender.identityChanged) ∨
    ∃ identity, packet = .avatarIdentity identity ∧ peer.identity? ≠ some identity ∧
      after.identity? = some identity ∧ after.sender.identityChanged = some now := by
  intro after
  rcases peer.client_sending bounds packet bytes now with
    ⟨number, pose, client, -, given, taken⟩ | ⟨identity, client, here, given, taken⟩ | ⟨-, taken⟩
  · obtain ⟨identity, changed⟩ := client.identity_applyUpdate number pose bytes now
    have shown := shows_of_client taken
    have held := shows_of_client? given
    exact Or.inl ⟨by rw [shown.identity, held.identity, identity],
      by rw [shown.changed, held.changed, changed]⟩
  · have shown := shows_of_client taken
    have held := shows_of_client? given
    rcases client.applyIdentity_spec identity now with ⟨-, same⟩ | ⟨new, identified, changed⟩
    · rw [same] at shown
      exact Or.inl ⟨shown.identity.trans held.identity.symm, shown.changed.trans held.changed.symm⟩
    · refine Or.inr ⟨identity, here, ?_, shown.identity.trans identified,
        shown.changed.trans changed⟩
      rwa [held.identity]
  · refine Or.inl ⟨?_, ?_⟩
    · rw [identity?, avatar?, taken, identity?, avatar?]
    · rw [sender, taken, sender]

end Peer

namespace Room

/-! ## Runs of a room -/

inductive Event
  /-- A peer sends a packet, which is taken in at an instant. -/
  | packet (sender : PeerId) (packet : InboundPacket) (bytes : Nat) (now : Instant)
  /-- Addresses are found or lost. -/
  | rewire (transport : Loopback)
  /-- A pass over some different peers, of which some are in use meanwhile. -/
  | pass (order : List PeerId) (distinct : order.Nodup) (busy : List PeerId) (now : Instant)

namespace Event

def stamp? : Event → Option Instant
  | packet _ (.avatarIdentity _) _ now => some now
  | packet .. | rewire _ | pass .. => none

def passTime? : Event → Option Instant
  | pass _ _ _ now => some now
  | packet .. | rewire _ => none

end Event

/-- Passes follow each other in time, and identities are stamped later than the passes before
them. -/
def Timely (events : List Event) : Prop :=
  events.Pairwise fun earlier later => ∀ last ∈ earlier.passTime?,
    (∀ now ∈ later.passTime?, last < now) ∧ ∀ stamp ∈ later.stamp?, last < stamp

/-- Identities are stamped no later than the passes after them. -/
def Punctual (events : List Event) : Prop :=
  events.Pairwise fun earlier later => ∀ stamp ∈ earlier.stamp?,
    ∀ now ∈ later.passTime?, stamp ≤ now

/-- The room after an event. Client data that comes into being has the given bounds. -/
def after (bounds : ScaleBounds) (room : Room) : Event → Room
  | .packet sender packet bytes now => room.modify sender (·.sending bounds packet bytes now)
  | .rewire transport => { room with transport := transport }
  | .pass order _ busy now => (room.pass order busy now).2

def nextPass (room : Room) (order busy : List PeerId) (now : Instant) : Pass where
  fanout := room.fanout
  order := order
  busy := (busy.contains ·)
  now := now
  directory := room.directory
  transport := room.transport

/-- The identity of a peer changed after the last pass, or was set before the first one. -/
def renews (room : Room) (sender : PeerId) : Bool :=
  (room.directory.identityChanged? sender).any fun changed =>
    room.fanout.lastPass.all (· < changed)

/-- What is known of a run, with regard to one sender. -/
structure Chronicle where
  /-- What the room has become. -/
  room : Room
  /-- The passes so far, in their order. -/
  passes : List Pass
  /-- The identity of the sender has changed after the last of them. -/
  renamed : Bool

namespace Chronicle

def start (room : Room) : Chronicle := ⟨room, [], false⟩

section Writing

variable (bounds : ScaleBounds) (sender : PeerId) (chronicle : Chronicle)

def next (event : Event) : Chronicle :=
  let room := chronicle.room.after bounds event
  match event with
  | .pass order _ busy now =>
    ⟨room, chronicle.passes ++ [chronicle.room.nextPass order busy now], false⟩
  | .packet .. | .rewire _ =>
    ⟨room, chronicle.passes, chronicle.renamed ||
      room.directory.identity? sender ≠ chronicle.room.directory.identity? sender⟩

def run (events : List Event) : Chronicle :=
  events.foldl (next bounds sender) chronicle

end Writing

variable (receiver sender : PeerId) (chronicle : Chronicle)

def met : Bool :=
  chronicle.passes.any (·.introduces receiver sender)

/-- From the first pass on in which the receiver was introduced to the sender, it considered
the sender in every pass. -/
def unbroken : Bool :=
  (chronicle.passes.dropWhile (!·.introduces receiver sender)).all
    (·.considers receiver sender)

def told : List Identity :=
  chronicle.passes.flatMap fun pass => Parcel.identitiesOf pass.mail receiver sender

end Chronicle

/-- What an event that is no pass does to a room, as far as the identity of one peer goes: it
leaves the identity as it is, or changes and stamps it. -/
structure Between (id : PeerId) (event : Event) (before after : Room) : Prop where
  fanout : after.fanout = before.fanout
  keyed : before.directory.Keyed → after.directory.Keyed
  knows : ∀ receiver, after.directory.knows receiver id = before.directory.knows receiver id
  identity :
    (after.directory.identity? id = before.directory.identity? id ∧
      after.directory.identityChanged? id = before.directory.identityChanged? id) ∨
    ∃ identity, ∃ stamp ∈ event.stamp?, before.directory.identity? id ≠ some identity ∧
      after.directory.identity? id = some identity ∧
      after.directory.identityChanged? id = some stamp

variable (room : Room) (bounds : ScaleBounds)

theorem between_packet (id sender : PeerId) (packet : InboundPacket) (bytes : Nat)
    (now : Instant) :
    Between id (.packet sender packet bytes now) room
      (room.after bounds (.packet sender packet bytes now)) where
  fanout := rfl
  keyed := fun keyed => keyed.modify sender (Peer.key_sending bounds packet bytes now)
  knows := fun receiver => by
    simp only [after, modify, Directory.knows, Directory.find?_modify]
    split
    · simp only [Option.any_map, Peer.knows_sending]
    · rfl
  identity := by
    simp only [after, modify, Directory.identity?, Directory.identityChanged?,
      Directory.find?_modify]
    split
    · cases room.directory.find? id with
      | none => exact Or.inl ⟨rfl, rfl⟩
      | some peer =>
        refine (peer.identity_sending bounds packet bytes now).imp_right ?_
        rintro ⟨identity, rfl, new, identified, changed⟩
        exact ⟨identity, now, rfl, new, identified, changed⟩
    · exact Or.inl ⟨rfl, rfl⟩

theorem between_rewire (id : PeerId) (transport : Loopback) :
    Between id (.rewire transport) room (room.after bounds (.rewire transport)) :=
  ⟨rfl, fun keyed => keyed, fun _ => rfl, Or.inl ⟨rfl, rfl⟩⟩

theorem found_new {settings : FanoutSettings} {seed : UInt64} {peers : List (Peer × Bool)}
    {id : PeerId} {peer : Peer} (found : (new settings seed peers).directory.find? id = some peer) :
    (∃ reached, (peer, reached) ∈ peers) ∧ peer.id = id := by
  have listed := PeerMap.mem_of_getElem?_ofList _ found
  rw [List.mem_map] at listed
  obtain ⟨⟨other, reached⟩, among, same⟩ := listed
  cases same
  exact ⟨⟨reached, List.mem_reverse.mp among⟩, rfl⟩

namespace Chronicle

/-- Passes that are unbroken up to the last one were so before it, and in the last one the
receiver considers the sender. -/
theorem unbroken_concat {receiver sender : PeerId} {passes : List Pass} {pass : Pass}
    (met : (passes ++ [pass]).any (·.introduces receiver sender) = true)
    (unbroken : ((passes ++ [pass]).dropWhile (!·.introduces receiver sender)).all
      (·.considers receiver sender) = true) :
    (passes.dropWhile (!·.introduces receiver sender)).all (·.considers receiver sender) = true ∧
      pass.considers receiver sender = true := by
  rw [List.dropWhile_append] at unbroken
  split at unbroken
  · next never =>
    rw [List.isEmpty_iff] at never
    have strangers : passes.any (·.introduces receiver sender) = false := by
      simpa using List.dropWhile_eq_nil_iff.mp never
    rw [List.any_append, strangers, Bool.false_or, List.any_cons, List.any_nil,
      Bool.or_false] at met
    rw [never]
    exact ⟨rfl, ((Bool.and_eq_true _ _).mp met).1⟩
  · rw [List.all_append, Bool.and_eq_true, List.all_cons, List.all_nil, Bool.and_true] at unbroken
    exact unbroken

/-- What a run of timely events has come to. -/
structure Tells (settings : FanoutSettings) (receiver sender : PeerId) (events : List Event)
    (chronicle : Chronicle) : Prop where
  keyed : chronicle.room.directory.Keyed
  settings : chronicle.room.fanout.settings = settings
  passed : ∀ time ∈ chronicle.room.fanout.lastPass, ∃ event ∈ events, time ∈ event.passTime?
  stamped : ∀ stamp ∈ chronicle.room.directory.identityChanged? sender,
    ∃ event ∈ events, stamp ∈ event.stamp?
  /-- An identity that has changed after the last pass is stamped later than that. -/
  renews : chronicle.renamed = true → chronicle.room.renews sender = true
  /-- If the events are punctual, no other identity is. -/
  renamed : Punctual events → chronicle.room.renews sender = true → chronicle.renamed = true
  named : chronicle.met receiver sender = true →
    (chronicle.room.directory.identity? sender).isSome = true
  knows : chronicle.room.directory.knows receiver sender = chronicle.met receiver sender
  /-- Unless it has changed after the last pass, the receiver holds the identity. -/
  told : chronicle.met receiver sender = true → chronicle.unbroken receiver sender = true →
    chronicle.renamed = false →
      (chronicle.told receiver sender).getLast? = chronicle.room.directory.identity? sender

namespace Tells

variable {settings : FanoutSettings} {receiver sender : PeerId} {events : List Event}
  {chronicle : Chronicle}

theorem start {seed : UInt64} {peers : List (Peer × Bool)}
    (fresh : ∀ listed ∈ peers, listed.1.Fresh) :
    Tells settings receiver sender [] (.start (new settings seed peers)) := by
  have blank {id : PeerId} {peer : Peer}
      (found : (new settings seed peers).directory.find? id = some peer) :
      ∃ bounds, peer.Shows (Client.new bounds) := by
    obtain ⟨⟨reached, listed⟩, -⟩ := found_new found
    exact (fresh _ listed).shows
  have strangers : (new settings seed peers).directory.knows receiver sender = false := by
    rw [Directory.knows, Option.any_eq_false]
    intro peer found
    obtain ⟨bounds, shows⟩ := blank found
    rw [shows.knows]
    exact Std.ExtTreeSet.contains_empty
  have unstamped : (new settings seed peers).directory.identityChanged? sender = none := by
    rw [Directory.identityChanged?, Option.bind_eq_none_iff]
    intro peer found
    obtain ⟨bounds, shows⟩ := blank found
    exact shows.changed
  exact
    { keyed := fun _ _ found => (found_new found).2
      settings := rfl
      passed := fun _ last => by cases last
      stamped := fun stamp given => by
        rw [Chronicle.start, unstamped] at given
        cases given
      renews := fun renamed => absurd renamed Bool.false_ne_true
      renamed := fun _ renewed => by
        rw [Chronicle.start, Room.renews, unstamped] at renewed
        cases renewed
      named := fun met => absurd met Bool.false_ne_true
      knows := strangers
      told := fun met => absurd met Bool.false_ne_true }

variable (tells : Tells settings receiver sender events chronicle)

include tells

/-- An event between two passes. If it changes the identity of the sender, it does so later
than the pass before. -/
theorem between {event : Event} {room : Room}
    (between : Between sender event chronicle.room room)
    (timely : Timely (events ++ [event])) :
    Tells settings receiver sender (events ++ [event])
      ⟨room, chronicle.passes, chronicle.renamed ||
        room.directory.identity? sender ≠ chronicle.room.directory.identity? sender⟩ := by
  have lastPass : room.fanout.lastPass = chronicle.room.fanout.lastPass :=
    congrArg Fanout.lastPass between.fanout
  have settings := (congrArg Fanout.settings between.fanout).trans tells.settings
  have knows := (between.knows receiver).trans tells.knows
  have passed : ∀ time ∈ room.fanout.lastPass, ∃ event ∈ events, time ∈ event.passTime? := by
    rw [lastPass]
    exact tells.passed
  have before {other : Event} (listed : other ∈ events) : other ∈ events ++ [event] :=
    List.mem_append_left _ listed
  rcases between.identity with ⟨same, still⟩ | ⟨identity, stamp, here, new, identified, changed⟩
  · have kept : room.renews sender = chronicle.room.renews sender := by
      rw [Room.renews, Room.renews, still, lastPass]
    have unchanged : (chronicle.renamed || decide (room.directory.identity? sender ≠
        chronicle.room.directory.identity? sender)) = chronicle.renamed := by
      simp [same]
    rw [unchanged]
    exact
      { keyed := between.keyed tells.keyed
        settings := settings
        passed := fun time last =>
          (passed time last).imp fun _ found => ⟨before found.1, found.2⟩
        stamped := fun stamp given =>
          (tells.stamped stamp (still ▸ given)).imp fun _ found => ⟨before found.1, found.2⟩
        renews := fun renamed => kept.trans (tells.renews renamed)
        renamed := fun punctual renewed =>
          tells.renamed (List.pairwise_append.mp punctual).1 (kept.symm.trans renewed)
        named := fun met => (congrArg Option.isSome same).trans (tells.named met)
        knows := knows
        told := fun met unbroken quiet => (tells.told met unbroken quiet).trans same.symm }
  · have renamed : (chronicle.renamed || decide (room.directory.identity? sender ≠
        chronicle.room.directory.identity? sender)) = true := by
      rw [identified, decide_eq_true new.symm, Bool.or_true]
    rw [renamed]
    exact
      { keyed := between.keyed tells.keyed
        settings := settings
        passed := fun time last =>
          (passed time last).imp fun _ found => ⟨before found.1, found.2⟩
        stamped := fun other given => by
          rw [changed] at given
          cases given
          exact ⟨event, List.mem_append_right _ List.mem_cons_self, here⟩
        renews := fun _ => by
          rw [Room.renews, changed, Option.any_some, Option.all_eq_true]
          intro time last
          obtain ⟨earlier, listed, passing⟩ := passed time last
          have follows := (List.pairwise_append.mp timely).2.2 earlier listed event
            List.mem_cons_self time passing
          exact decide_eq_true (follows.2 stamp here)
        renamed := fun _ _ => rfl
        named := fun _ => congrArg Option.isSome identified
        knows := knows
        told := fun _ _ quiet => absurd quiet.symm Bool.false_ne_true }

section Pass

variable (never : settings.identityProbability.numEq 0 = true)

include never

/-- What a pass brings of a sender that the receiver considers: the identity, if it was not
brought before or is stamped later than the pass before. -/
theorem sent {order : List PeerId} (distinct : order.Nodup) (busy : List PeerId) (now : Instant)
    (considered : (chronicle.room.nextPass order busy now).considers receiver sender = true)
    {identity : Identity} (has : chronicle.room.directory.identity? sender = some identity) :
    Parcel.identitiesOf (chronicle.room.nextPass order busy now).mail receiver sender =
      if !chronicle.met receiver sender || chronicle.room.renews sender then [identity]
      else [] := by
  have proper : (chronicle.room.nextPass order busy now).Proper := ⟨distinct, tells.keyed⟩
  have brought := proper.identitiesOf_mail (by rwa [← tells.settings] at never) receiver sender
  rw [brought, considered, Bool.true_and, ← tells.knows,
    show (chronicle.room.nextPass order busy now).directory.identity? sender = some identity
      from has]
  rfl

/-- A pass. Where the receiver goes on considering the sender, it holds the identity of the
sender after it. -/
theorem pass (bounds : ScaleBounds) {order : List PeerId} (distinct : order.Nodup)
    (busy : List PeerId) (now : Instant) :
    Tells settings receiver sender (events ++ [.pass order distinct busy now])
      (chronicle.next bounds sender (.pass order distinct busy now)) := by
  let pass := chronicle.room.nextPass order busy now
  have proper : pass.Proper := ⟨distinct, tells.keyed⟩
  have same := proper.identity?_result sender
  have still := proper.identityChanged?_result sender
  have met : (chronicle.next bounds sender (.pass order distinct busy now)).met receiver sender =
      (chronicle.met receiver sender || pass.introduces receiver sender) := by
    rw [Chronicle.met, Chronicle.next, List.any_append, List.any_cons, List.any_nil,
      Bool.or_false]
    rfl
  have named : (chronicle.met receiver sender || pass.introduces receiver sender) = true →
      (chronicle.room.directory.identity? sender).isSome = true := by
    rw [Bool.or_eq_true]
    rintro (earlier | introduced)
    · exact tells.named earlier
    · exact ((Bool.and_eq_true _ _).mp introduced).2
  exact
    { keyed := tells.keyed.of_map proper.find?_result pass.key_passed
      settings := tells.settings
      passed := fun time last => by
        cases last
        exact ⟨_, List.mem_append_right _ List.mem_cons_self, rfl⟩
      stamped := fun stamp given =>
        (tells.stamped stamp (still.symm.trans given)).imp fun _ found =>
          ⟨List.mem_append_left _ found.1, found.2⟩
      renews := fun renamed => absurd renamed Bool.false_ne_true
      renamed := fun punctual renewed => by
        obtain ⟨stamp, given, later⟩ := (Option.any_eq_true _ _).mp renewed
        obtain ⟨event, listed, here⟩ := tells.stamped stamp (still.symm.trans given)
        have early : stamp ≤ now := (List.pairwise_append.mp punctual).2.2 event listed _
          List.mem_cons_self stamp here now rfl
        exact absurd (of_decide_eq_true later) (Nat.not_lt.mpr early)
      named := fun reached => (congrArg Option.isSome same).trans (named (met ▸ reached))
      knows := by
        rw [met, ← tells.knows]
        exact proper.knows_result receiver sender
      told := fun reached unbroken _ => by
        obtain ⟨before, considered⟩ := unbroken_concat reached unbroken
        obtain ⟨identity, has⟩ := Option.isSome_iff_exists.mp (named (met ▸ reached))
        refine Eq.trans ?_ (same.trans has).symm
        rw [Chronicle.told, Chronicle.next, List.flatMap_append, List.flatMap_cons,
          List.flatMap_nil, List.append_nil, List.getLast?_append,
          tells.sent never distinct busy now considered has]
        split
        · rfl
        · next undue =>
          obtain ⟨known, fresh⟩ := Bool.or_eq_false_iff.mp (Bool.eq_false_iff.mpr undue)
          have quiet : chronicle.renamed = false :=
            Bool.eq_false_iff.mpr fun renamed => Bool.eq_false_iff.mp fresh (tells.renews renamed)
          rw [Bool.not_eq_false'] at known
          have held := tells.told known before quiet
          rw [List.getLast?_nil, Option.none_or]
          exact held.trans has }

theorem next (bounds : ScaleBounds) {event : Event} (timely : Timely (events ++ [event])) :
    Tells settings receiver sender (events ++ [event]) (chronicle.next bounds sender event) := by
  cases event with
  | packet id packet bytes now =>
    exact tells.between (chronicle.room.between_packet bounds sender id packet bytes now) timely
  | rewire transport =>
    exact tells.between (chronicle.room.between_rewire bounds sender transport) timely
  | pass order distinct busy now => exact tells.pass never bounds distinct busy now

theorem run (bounds : ScaleBounds) {later : List Event} (timely : Timely (events ++ later)) :
    Tells settings receiver sender (events ++ later) (chronicle.run bounds sender later) := by
  induction later generalizing events chronicle with
  | nil => rwa [List.append_nil]
  | cons event rest ih =>
    have split : events ++ event :: rest = events ++ [event] ++ rest := by simp
    rw [split] at timely ⊢
    exact ih (tells.next never bounds (List.pairwise_append.mp timely).1) timely

end Pass

end Tells

end Chronicle

end Room

/-- A receiver that goes on considering a sender holds its identity, and is not sent it without
need. In any room of peers with new client data, where an unchanged identity is never sent
again by chance, passes follow each other in time and identities are stamped later than the
passes before them: from the first pass in which the receiver considers the sender while it
has an identity, as long as the receiver considers it in every pass, the last identity of the
sender that the receiver was sent is, after each pass, the one that the sender has. It is sent
in the first of these passes and in those before which it changed; and in no other, if
identities are stamped no later than the passes after them. -/
theorem introductions_of_run (settings : FanoutSettings) (seed : UInt64)
    {peers : List (Peer × Bool)}
    (fresh : ∀ listed ∈ peers, listed.1.Fresh)
    (never : settings.identityProbability.numEq 0 = true) (bounds : ScaleBounds)
    (receiver sender : PeerId) {events : List Room.Event} {order : List PeerId}
    (distinct : order.Nodup) (busy : List PeerId) (now : Instant)
    (timely : Room.Timely (events ++ [.pass order distinct busy now])) :
    let before := (Room.Chronicle.start (Room.new settings seed peers)).run bounds sender events
    let after := before.next bounds sender (.pass order distinct busy now)
    let pass := before.room.nextPass order busy now
    let sent := Parcel.identitiesOf pass.mail receiver sender
    let due := before.met receiver sender = false ∨ before.renamed = true
    after.room.transport = before.room.transport.deliverAll pass.mail ∧
      (after.met receiver sender = true → after.unbroken receiver sender = true →
        ∃ identity, after.room.directory.identity? sender = some identity ∧
          (after.told receiver sender).getLast? = some identity ∧
          (due → sent = [identity]) ∧
          (Room.Punctual (events ++ [.pass order distinct busy now]) → ¬ due → sent = [])) := by
  intro before after pass sent due
  have begun : (Room.Chronicle.start (Room.new settings seed peers)).Tells settings receiver
      sender [] := .start fresh
  have tells : before.Tells settings receiver sender events :=
    begun.run never bounds (List.pairwise_append.mp timely).1
  have told := tells.pass never bounds distinct busy now
  have proper : pass.Proper := ⟨distinct, tells.keyed⟩
  refine ⟨proper.transport_result, fun met unbroken => ?_⟩
  obtain ⟨identity, has⟩ := Option.isSome_iff_exists.mp (told.named met)
  have considered := (Room.Chronicle.unbroken_concat met unbroken).2
  have brought := tells.sent never distinct busy now considered
    ((proper.identity?_result sender).symm.trans has)
  refine ⟨identity, has, (told.told met unbroken rfl).trans has, fun reason => ?_,
    fun punctual undue => ?_⟩
  · refine brought.trans (if_pos ?_)
    rcases reason with first | renamed
    · rw [first]
      rfl
    · rw [tells.renews renamed, Bool.or_true]
  · obtain ⟨known, quiet⟩ := not_or.mp undue
    have still : before.room.renews sender = false := Bool.eq_false_iff.mpr fun renewed =>
      quiet (tells.renamed (List.pairwise_append.mp punctual).1 renewed)
    refine brought.trans (if_neg ?_)
    rw [still, Bool.or_false, Bool.not_eq_true, Bool.not_eq_false']
    exact eq_true_of_ne_false known

/-- A second agent takes a name between the first two passes over two agents. The first one is
sent the name in the second pass, and holds it after the third, in which it is not sent it. -/
theorem introductions_among_two :
    let agent (id : Nat) := (Peer.new (PeerId.ofNat id) .agent id).withClient (Client.new default)
    let room := Room.new ⟨1000, 60, 0, 0⟩ 0 [(agent 1, true), (agent 2, true)]
    let tick (now : Instant) : Room.Event :=
      .pass [PeerId.ofNat 1, PeerId.ofNat 2] (by decide +kernel) [] now
    let name := Identity.named "sam"
    let before := (Room.Chronicle.start room).run default (PeerId.ofNat 2)
      [tick 10, .packet (PeerId.ofNat 2) (.avatarIdentity name) 0 15, tick 20]
    let after := before.next default (PeerId.ofNat 2) (tick 30)
    (after.told (PeerId.ofNat 1) (PeerId.ofNat 2)).getLast? = some name ∧
      Parcel.identitiesOf (before.room.nextPass [PeerId.ofNat 1, PeerId.ofNat 2] [] 30).mail
        (PeerId.ofNat 1) (PeerId.ofNat 2) = [] := by
  intro agent room tick name before after
  let events := [tick 10, .packet (PeerId.ofNat 2) (.avatarIdentity name) 0 15, tick 20]
  have fresh : ∀ listed ∈ [(agent 1, true), (agent 2, true)], listed.1.Fresh := by
    simp [agent, Peer.fresh_withClient]
  have timely : Room.Timely (events ++ [tick 30]) := by
    simp [Room.Timely, events, tick, Room.Event.passTime?, Room.Event.stamp?]
  have punctual : Room.Punctual (events ++ [tick 30]) := by
    simp [Room.Punctual, events, tick, Room.Event.passTime?, Room.Event.stamp?]
  obtain ⟨-, holds⟩ := introductions_of_run ⟨1000, 60, 0, 0⟩ 0 fresh (by decide +kernel) default
    (PeerId.ofNat 1) (PeerId.ofNat 2) (by decide +kernel) [] 30 timely
  obtain ⟨identity, has, told, -, undue⟩ := holds (by decide +kernel) (by decide +kernel)
  have named : after.room.directory.identity? (PeerId.ofNat 2) = some name := by decide +kernel
  have held : identity = name := Option.some.inj (has.symm.trans named)
  exact ⟨told.trans (congrArg some held), undue punctual (by decide +kernel)⟩

/-- It would be wrong to leave out of account the stamps that are later than the pass after
them: an identity that is stamped later than the second pass, but taken in before it, is sent in
that pass and in the third one again. -/
theorem sent_again_after_late_stamp :
    ¬ ∀ (settings : FanoutSettings) (seed : UInt64) (peers : List (Peer × Bool))
      (bounds : ScaleBounds) (receiver sender : PeerId) (events : List Room.Event)
      (order : List PeerId) (distinct : order.Nodup) (busy : List PeerId) (now : Instant),
      let before := (Room.Chronicle.start (Room.new settings seed peers)).run bounds sender events
      let after := before.next bounds sender (.pass order distinct busy now)
      let pass := before.room.nextPass order busy now
      (∀ listed ∈ peers, listed.1.Fresh) →
      settings.identityProbability.numEq 0 = true →
      Room.Timely (events ++ [.pass order distinct busy now]) →
      after.met receiver sender = true →
      after.unbroken receiver sender = true →
        (Parcel.identitiesOf pass.mail receiver sender ≠ [] ↔
          before.met receiver sender = false ∨ before.renamed = true) := by
  intro always
  let agent (id : Nat) := (Peer.new (PeerId.ofNat id) .agent id).withClient (Client.new default)
  let tick (now : Instant) : Room.Event :=
    .pass [PeerId.ofNat 1, PeerId.ofNat 2] (by decide +kernel) [] now
  let events :=
    [tick 10, .packet (PeerId.ofNat 2) (.avatarIdentity (Identity.named "sam")) 0 25, tick 20]
  have fresh : ∀ listed ∈ [(agent 1, true), (agent 2, true)], listed.1.Fresh := by
    simp [agent, Peer.fresh_withClient]
  have timely : Room.Timely (events ++ [tick 30]) := by
    simp [Room.Timely, events, tick, Room.Event.passTime?, Room.Event.stamp?]
  have due := (always ⟨1000, 60, 0, 0⟩ 0 _ default (PeerId.ofNat 1) (PeerId.ofNat 2) events
    [PeerId.ofNat 1, PeerId.ofNat 2] (by decide +kernel) [] 30 fresh (by decide +kernel) timely
    (by decide +kernel) (by decide +kernel)).mp (by decide +kernel)
  exact absurd due (by decide +kernel)

end AvatarRelay
