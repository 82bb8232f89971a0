/-
# Stale and refused updates

An update that is not taken over is counted in two places: in a metric of the relay, and with
the client data of its sender. The relay counts every such update, the sender only a stale one.
So the metric exceeds the sum over the connected peers by the updates that were refused for
their pose alone, and the two agree as long as there are none.
-/

import AvatarRelay.Proofs.Endings
import AvatarRelay.Proofs.News
import AvatarRelay.Proofs.Refusals

namespace AvatarRelay

-- The zero of a sum is that of the numerals, whatever other instances are in scope.
attribute [local instance (2000)] Zero.ofOfNat0

namespace Directory

def total (measure : Peer → UInt64) (directory : Directory) : UInt64 :=
  (directory.toList.map measure).sum

variable {directory other : Directory} (measure : Peer → UInt64)

theorem total_congr (same : ∀ id, other.find? id = directory.find? id) :
    other.total measure = directory.total measure := by
  have peers : other.peers = directory.peers :=
    Std.ExtTreeMap.ext_getElem? fun {id} => same id
  rw [total, toList, peers, total, toList]

/-- The total is that of the others, and what there is of one peer. -/
theorem Keyed.total_of_found (keyed : directory.Keyed) {peer : Peer}
    (there : directory.find? peer.id = some peer) :
    directory.total measure = measure peer + (directory.without peer.id).total measure := by
  have keyedToo : (directory.without peer.id).Keyed := by
    intro id other found
    rw [find?_without] at found
    split at found
    · cases found
    · exact keyed found
  have split : directory.toList.Perm (peer :: (directory.without peer.id).toList) := by
    have fresh : peer ∉ (directory.without peer.id).toList := by
      rw [keyedToo.mem_toList_iff, find?_without, if_pos rfl]
      simp
    rw [List.perm_ext_iff_of_nodup keyed.nodup_toList
      (List.nodup_cons.mpr ⟨fresh, keyedToo.nodup_toList⟩)]
    intro listed
    rw [List.mem_cons, keyed.mem_toList_iff, keyedToo.mem_toList_iff, find?_without]
    split
    · next own =>
      rw [own, there]
      simp [eq_comm]
    · next apart =>
      have different : listed ≠ peer := fun same => apart (congrArg Peer.id same)
      simp [different]
  rw [total, UInt64.sum_perm (split.map measure), List.map_cons, List.sum_cons, total]

/-- Directories that differ in one peer differ in total by what there is of that peer. -/
theorem Keyed.total_of_changed (keyed : directory.Keyed) (others : other.Keyed)
    {before after : Peer} (there : directory.find? before.id = some before)
    (here : other.find? before.id = some after)
    (same : ∀ id, id ≠ before.id → other.find? id = directory.find? id) :
    other.total measure + measure before = directory.total measure + measure after := by
  have own : after.id = before.id := others here
  have rest : (other.without after.id).total measure =
      (directory.without before.id).total measure := by
    apply total_congr
    intro id
    rw [find?_without, find?_without, own]
    split
    · rfl
    · next apart => exact same id apart
  rw [keyed.total_of_found measure there, others.total_of_found measure (own ▸ here), rest]
  ac_rfl

theorem Keyed.total_of_added (others : other.Keyed) {peer : Peer}
    (absent : directory.find? peer.id = none) (here : other.find? peer.id = some peer)
    (same : ∀ id, id ≠ peer.id → other.find? id = directory.find? id) :
    other.total measure = measure peer + directory.total measure := by
  rw [others.total_of_found measure here]
  apply congrArg
  apply total_congr
  intro id
  rw [find?_without]
  split
  · next own => rw [own, absent]
  · next apart => exact same id apart

end Directory

namespace Peer

def staleUpdates (peer : Peer) : UInt64 :=
  peer.sender.staleUpdates

/-- A packet is an update that is not stale but is refused for its pose. -/
def refuses (peer : Peer) : InboundPacket → Bool
  | .avatarData number pose =>
    peer.role.carriesAvatar && !peer.sender.isStale number && Avatar.refuses pose
  | _ => false

variable (peer : Peer) (bounds : ScaleBounds) (bytes : Nat) (now : Instant)

theorem isSome_client? :
    (peer.client? bounds).isSome = peer.role.carriesAvatar := by
  unfold client?
  cases peer.role.carriesAvatar <;> rfl

theorem staleUpdates_sending_update (number : SequenceNumber) (pose : Pose) :
    (peer.sending bounds (.avatarData number pose) bytes now).staleUpdates =
      peer.staleUpdates + (peer.role.carriesAvatar && peer.sender.isStale number).toUInt64 := by
  rw [← peer.isSome_client? bounds]
  simp only [sending]
  cases known : peer.client? bounds with
  | none => exact (UInt64.add_zero _).symm
  | some client =>
    have own := sender_of_client? known
    rw [Option.elim_some, staleUpdates, sender_of_client rfl, Client.applyUpdate_eq, staleUpdates,
      ← own]
    cases stale : client.sender.isStale number <;> cases Avatar.refuses pose <;>
      simp [Client.dropping, stale, Bool.toUInt64]

theorem dropped_receipt_update (number : SequenceNumber) (pose : Pose) :
    (peer.receipt bounds (.avatarData number pose) bytes now).dropped =
      (peer.role.carriesAvatar && (peer.sender.isStale number || Avatar.refuses pose)) := by
  rw [← peer.isSome_client? bounds]
  simp only [receipt]
  cases known : peer.client? bounds with
  | none => rfl
  | some client =>
    rw [← sender_of_client? known, Option.isSome_some, Bool.true_and, Bool.eq_iff_iff,
      Bool.or_eq_true, ← client.applyUpdate_ne_accepted_iff number pose bytes now]
    exact decide_eq_true_iff

/-- Of the updates that are not taken over a peer counts all but those that are refused. -/
theorem staleUpdates_sending (packet : InboundPacket) :
    (peer.sending bounds packet bytes now).staleUpdates + (peer.refuses packet).toUInt64 =
      peer.staleUpdates + (peer.receipt bounds packet bytes now).dropped.toUInt64 := by
  cases packet with
  | avatarData number pose =>
    rw [staleUpdates_sending_update, dropped_receipt_update, refuses]
    cases peer.role.carriesAvatar <;> cases peer.sender.isStale number <;>
      cases Avatar.refuses pose <;> simp [Bool.toUInt64]
  | avatarIdentity identity =>
    simp only [sending, receipt, refuses]
    cases known : peer.client? bounds with
    | none => rfl
    | some client =>
      have same : (client.applyIdentity identity now).1.sender.staleUpdates =
          client.sender.staleUpdates := by
        unfold Client.applyIdentity
        split <;> rfl
      rw [Option.elim_some, staleUpdates, sender_of_client rfl, same, sender_of_client? known]
      rfl
  | killAvatar => rfl
  | nodeIgnore others enabled =>
    have same : (peer.setIgnored others enabled).staleUpdates = peer.staleUpdates := by
      rw [staleUpdates, sender, (peer.setIgnored_keeps others enabled).2.2, staleUpdates, sender]
    exact congrArg (· + 0) same
  | radiusIgnore enabled => rfl

end Peer

namespace Relay

/-- A packet is an update that is refused for its pose alone. -/
def refusesUpdate (relay : Relay) : Operation → Bool
  | .receive sender bytes _ =>
    match relay.directory.find? sender, InboundPacket.format.decode bytes with
    | some peer, .ok packet => peer.refuses packet
    | _, _ => false
  | _ => false

def refusals (relay : Relay) : List Operation → Nat
  | [] => 0
  | operation :: rest =>
    (relay.refusesUpdate operation).toNat + (relay.apply operation).refusals rest

def staleTotal (relay : Relay) : UInt64 :=
  relay.directory.total Peer.staleUpdates

/-- Peers connect, none in the place of another, and packets arrive. -/
def Gathers (relay : Relay) : List Operation → Prop
  | [] => True
  | .connect id role :: rest =>
    relay.directory.find? id = none ∧ (relay.apply (.connect id role)).Gathers rest
  | .receive sender bytes now :: rest => (relay.apply (.receive sender bytes now)).Gathers rest
  | .disconnect _ :: _ | .rewire _ :: _ | .tick _ _ _ _ :: _ => False

variable {relay : Relay}

/-- With a packet the total changes by what the packet makes of its sender. -/
theorem staleTotal_receive_of_found (formed : relay.directory.WellFormed) {peer : Peer}
    (there : relay.directory.find? peer.id = some peer) (bytes : Bytes) (now : Instant) :
    (relay.receive peer.id bytes now).2.staleTotal + peer.staleUpdates =
      relay.staleTotal + (relay.heard peer.id bytes now peer).staleUpdates := by
  have formedToo : (relay.receive peer.id bytes now).2.directory.WellFormed :=
    wellFormed_apply formed (.receive peer.id bytes now)
  have here : (relay.receive peer.id bytes now).2.directory.find? peer.id =
      some (relay.heard peer.id bytes now peer) := by
    rw [find?_receive formed, there, Option.map_some]
  exact formed.keyed.total_of_changed Peer.staleUpdates formedToo.keyed there here
    fun id apart => find?_receive_of_ne formed apart bytes now

/-- Of the updates that are not taken over their sender counts all but those that are refused. -/
theorem staleUpdates_heard {peer : Peer} (there : relay.directory.find? peer.id = some peer)
    (bytes : Bytes) (now : Instant) :
    (relay.heard peer.id bytes now peer).staleUpdates +
        (relay.refusesUpdate (.receive peer.id bytes now)).toUInt64 =
      peer.staleUpdates + (relay.receipt peer.id bytes now).dropped.toUInt64 := by
  simp only [heard, refusesUpdate, receipt, there]
  cases InboundPacket.format.decode bytes with
  | error cause => rfl
  | ok packet =>
    simp only [if_true]
    exact peer.staleUpdates_sending relay.config.scaleBounds bytes.length now packet

/-- With a packet the total of the peers grows by the update that is not taken over, unless
that update is refused. -/
theorem staleTotal_receive (formed : relay.directory.WellFormed) (sender : PeerId)
    (bytes : Bytes) (now : Instant) :
    (relay.receive sender bytes now).2.staleTotal +
        (relay.refusesUpdate (.receive sender bytes now)).toUInt64 =
      relay.staleTotal + (relay.receipt sender bytes now).dropped.toUInt64 := by
  cases there : relay.directory.find? sender with
  | none =>
    have unheard : (relay.receive sender bytes now).2.staleTotal = relay.staleTotal := by
      refine Directory.total_congr _ fun id => ?_
      by_cases own : id = sender
      · rw [own, find?_receive formed, there, Option.map_none]
      · exact find?_receive_of_ne formed own bytes now
    simp only [refusesUpdate, receipt, there]
    exact congrArg (· + 0) unheard
  | some peer =>
    obtain rfl : peer.id = sender := formed.keyed there
    -- What the peer had counted stands on both sides.
    refine (UInt64.add_left_inj peer.staleUpdates).mp ?_
    calc
      _ = (relay.receive peer.id bytes now).2.staleTotal + peer.staleUpdates +
            (relay.refusesUpdate (.receive peer.id bytes now)).toUInt64 := by ac_rfl
      _ = relay.staleTotal + ((relay.heard peer.id bytes now peer).staleUpdates +
            (relay.refusesUpdate (.receive peer.id bytes now)).toUInt64) := by
        rw [staleTotal_receive_of_found formed there, UInt64.add_assoc]
      _ = _ := by
        rw [staleUpdates_heard there]
        ac_rfl

/-- The metric counts the stale updates of all connected peers, and those that were refused. -/
def Counts (relay : Relay) (refused : Nat) : Prop :=
  relay.metrics.staleUpdates = relay.staleTotal + UInt64.ofNat refused

namespace Counts

variable {refused : Nat}

theorem opened (config : Config) (fanout : Fanout) : (Relay.opened config fanout).Counts 0 := by
  have nobody : (Relay.opened config fanout).directory.toList = [] := by
    rw [List.eq_nil_iff_forall_not_mem]
    intro peer listed
    obtain ⟨id, found⟩ := (Directory.mem_toList _).mp listed
    rw [find?_opened] at found
    cases found
  rw [Counts, staleTotal, Directory.total, nobody]
  rfl

theorem connect (counts : relay.Counts refused) (formed : relay.directory.WellFormed) {id : PeerId}
    (absent : relay.directory.find? id = none) (role : Role) :
    (relay.connect id role).2.Counts refused := by
  have formedToo := relay.wellFormed_connect formed id role
  -- The peer that connects has this identifier, and so stands for itself below.
  let peer := Peer.new id role (relay.directory.lastSession + 1)
  have here : (relay.connect id role).2.directory.find? peer.id = some peer := by
    rw [find?_connect]
    exact if_pos rfl
  have others (other : PeerId) (apart : other ≠ peer.id) :
      (relay.connect id role).2.directory.find? other = relay.directory.find? other := by
    rw [find?_connect]
    exact if_neg apart
  have missing : relay.directory.find? peer.id = none := absent
  have added : (relay.connect id role).2.staleTotal = 0 + relay.staleTotal :=
    formedToo.keyed.total_of_added Peer.staleUpdates missing here others
  have same : (relay.connect id role).2.metrics.staleUpdates = relay.metrics.staleUpdates := by
    rw [Relay.connect, absent]
  rw [Counts, same, added, UInt64.zero_add, counts]

theorem receive (counts : relay.Counts refused) (formed : relay.directory.WellFormed)
    (sender : PeerId) (bytes : Bytes) (now : Instant) :
    (relay.receive sender bytes now).2.Counts
      (refused + (relay.refusesUpdate (.receive sender bytes now)).toNat) := by
  have grown := staleTotal_receive formed sender bytes now
  have noted := congrArg (fun relay : Relay => relay.metrics.staleUpdates)
    (relay.receive_spec sender bytes now).2
  have metric : (relay.receive sender bytes now).2.metrics.staleUpdates =
      relay.metrics.staleUpdates + (relay.receipt sender bytes now).dropped.toUInt64 := by
    refine noted.trans ?_
    simp only [noting, Metrics.charge]
    cases (relay.receipt sender bytes now).dropped <;> rfl
  rw [Counts, metric, counts, UInt64.ofNat_add, UInt64.ofNat_toNat_bool]
  calc
    _ = relay.staleTotal + (relay.receipt sender bytes now).dropped.toUInt64 +
          UInt64.ofNat refused := by ac_rfl
    _ = _ := by
      rw [← grown]
      ac_rfl

theorem run (counts : relay.Counts refused) (formed : relay.directory.WellFormed)
    {operations : List Operation} (gathers : relay.Gathers operations) :
    (relay.run operations).Counts (refused + relay.refusals operations) := by
  induction operations generalizing relay refused with
  | nil => exact counts
  | cons operation rest ih =>
    rw [refusals, ← Nat.add_assoc]
    have formedToo := wellFormed_apply formed operation
    cases operation with
    | connect id role =>
      exact ih (counts.connect formed gathers.1 role) formedToo gathers.2
    | receive sender bytes now =>
      exact ih (counts.receive formed sender bytes now) formedToo gathers
    | disconnect _ | rewire _ | tick _ _ _ _ => exact gathers.elim

end Counts

end Relay

/-- The metric of stale updates exceeds what the peers have counted by the updates that were
refused. Let peers connect, none in the place of another, and send any packets. Then the metric
is the sum of the stale updates over all connected peers together with the updates that were not
stale but refused for their poses, all in counts of eight bytes; so it agrees with the sum if none
was refused, and only if their number comes to zero in eight bytes. -/
theorem staleness_of_run (config : Config) (fanout : Fanout) {operations : List Relay.Operation}
    (gathers : (Relay.opened config fanout).Gathers operations) :
    let start := Relay.opened config fanout
    let relay := start.run operations
    let counted := (relay.directory.toList.map fun peer => peer.sender.staleUpdates).sum
    let refused := start.refusals operations
    relay.metrics.staleUpdates = counted + UInt64.ofNat refused ∧
      (relay.metrics.staleUpdates = counted ↔ UInt64.ofNat refused = 0) := by
  intro start relay counted refused
  have counts := (Relay.Counts.opened config fanout).run Directory.WellFormed.empty gathers
  rw [Nat.zero_add] at counts
  have metric : relay.metrics.staleUpdates = counted + UInt64.ofNat refused := counts
  refine ⟨metric, ?_⟩
  rw [metric]
  constructor
  · intro same
    exact (UInt64.add_right_inj counted).mp (same.trans (UInt64.add_zero _).symm)
  · intro zero
    rw [zero, UInt64.add_zero]

/-- An agent whose only update has no position that is a number: the relay counts it as stale,
the peer does not. -/
theorem staleness_after_refusal :
    let start := Relay.opened Config.standard (Fanout.ofSeed Config.standard.fanoutSettings 0)
    let nowhere : Pose := ⟨⟨Binary32.nan, 0, 0⟩, Quat.identity, 1, none, []⟩
    let operations : List Relay.Operation :=
      [.connect Relay.firstAgent .agent,
        .receive Relay.firstAgent (InboundPacket.format.write (.avatarData 1 nowhere)) 0]
    let relay := start.run operations
    relay.metrics.staleUpdates = 1 ∧
      relay.metrics.staleUpdates ≠
        (relay.directory.toList.map fun peer => peer.sender.staleUpdates).sum := by
  intro start nowhere operations relay
  have gathers : start.Gathers operations := by
    refine ⟨Relay.find?_opened _ _ _, trivial⟩
  have refused : start.refusals operations = 1 := by decide +kernel
  have silent : (relay.directory.toList.map fun peer => peer.sender.staleUpdates).sum = 0 := by
    decide +kernel
  obtain ⟨metric, agrees⟩ := staleness_of_run _ _ gathers
  rw [refused] at metric agrees
  refine ⟨metric.trans ?_, fun same => ?_⟩
  · rw [silent]
    rfl
  · exact absurd (agrees.mp same) (by decide)

end AvatarRelay
