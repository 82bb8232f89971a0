/-
# Updates in any order

Updates may overtake one another on their way and arrive more than once. As long as their
numbers lie within half of the circle ahead of some base, the client ends up with the
update that lies farthest ahead, whatever order they arrive in: at any time it holds the
farthest of those that have arrived so far.
-/

import Mathlib.Data.List.Nodup
import AvatarRelay.Proofs.Fidelity
import AvatarRelay.Proofs.Numbers

namespace AvatarRelay

/-- An update that arrives, with its size in bytes and the time. -/
structure Arrival where
  number : SequenceNumber
  pose : Pose
  bytes : Nat
  now : Instant

namespace Arrival

/-- What arrives: copies of one update differ in time and bytes alone. -/
def content (arrival : Arrival) : SequenceNumber × Pose :=
  (arrival.number, arrival.pose)

end Arrival

namespace Client

def takeIn (client : Client) (arrival : Arrival) : Client :=
  (client.applyUpdate arrival.number arrival.pose arrival.bytes arrival.now).1

structure Holds (client : Client) (update : SequenceNumber × Pose) : Prop where
  hasUpdate : client.sender.hasUpdate = true
  latest : client.sender.latest = update.1
  pose : client.avatar.pose = Avatar.sanitize client.avatar.bounds update.2

variable {client : Client} {arrival : Arrival}

theorem bounds_takeIn (client : Client) (arrival : Arrival) :
    (client.takeIn arrival).avatar.bounds = client.avatar.bounds := by
  rcases client.applyUpdate_spec arrival.number arrival.pose arrival.bytes arrival.now with
    ⟨-, -, avatar⟩ | ⟨-, avatar⟩
  · rw [takeIn, avatar]
  · rw [takeIn, avatar]

/-- An update that is neither stale nor refused is taken over. -/
theorem holds_takeIn (fresh : client.sender.isStale arrival.number = false)
    (valid : Avatar.refuses arrival.pose = false) :
    (client.takeIn arrival).Holds arrival.content := by
  rcases client.sender_applyUpdate arrival.number arrival.pose arrival.bytes arrival.now with
    ⟨accepted, -, hasUpdate, latest⟩ | ⟨-, stale | refused, -⟩
  · rcases client.applyUpdate_spec arrival.number arrival.pose arrival.bytes arrival.now with
      ⟨-, -, avatar⟩ | ⟨dropped, -⟩
    · refine ⟨hasUpdate, latest, ?_⟩
      rw [takeIn, avatar]
      rfl
    · exact absurd accepted dropped
  · exact absurd (stale.symm.trans fresh) Bool.noConfusion
  · exact absurd (refused.symm.trans valid) Bool.noConfusion

/-- A stale update leaves the client with the update that it holds. -/
theorem Holds.takeIn {update : SequenceNumber × Pose} (holds : client.Holds update)
    (stale : client.sender.isStale arrival.number = true) :
    (client.takeIn arrival).Holds update := by
  rcases client.sender_applyUpdate arrival.number arrival.pose arrival.bytes arrival.now with
    ⟨-, fresh, -⟩ | ⟨dropped, -, hasUpdate, latest⟩
  · exact absurd (stale.symm.trans fresh) Bool.noConfusion
  · rcases client.applyUpdate_spec arrival.number arrival.pose arrival.bytes arrival.now with
      ⟨accepted, -⟩ | ⟨-, avatar⟩
    · exact absurd accepted dropped
    · refine ⟨hasUpdate.trans holds.hasUpdate, latest.trans holds.latest, ?_⟩
      rw [Client.takeIn, avatar]
      exact holds.pose

/-- The client holds the farthest from a base of the updates that have arrived, or none has
arrived and it holds nothing. -/
def HoldsFarthest (client : Client) (base : SequenceNumber)
    (arrived : List (SequenceNumber × Pose)) : Prop :=
  (arrived = [] ∧ client.sender.hasUpdate = false) ∨
    ∃ farthest ∈ arrived, client.Holds farthest ∧ ∀ update ∈ arrived,
      Sequence.distance base update.1 ≤ Sequence.distance base farthest.1

/-- One more arrival is taken over exactly if it lies farther from the base than all before
it. -/
theorem HoldsFarthest.takeIn {base : SequenceNumber} {arrived : List (SequenceNumber × Pose)}
    (holds : client.HoldsFarthest base arrived)
    (near : ∀ update ∈ arrived ++ [arrival.content],
      Sequence.distance base update.1 ≤ 32767)
    (valid : Avatar.refuses arrival.pose = false) :
    (client.takeIn arrival).HoldsFarthest base (arrived ++ [arrival.content]) := by
  right
  rcases holds with ⟨rfl, nothing⟩ | ⟨farthest, among, held, above⟩
  · have fresh : client.sender.isStale arrival.number = false := by
      rw [Sender.isStale, nothing, Bool.false_and]
    refine ⟨arrival.content, by simp, holds_takeIn fresh valid, fun update listed => ?_⟩
    rw [List.mem_singleton.mp listed]
    exact UInt16.le_refl _
  · have order : Sequence.newer arrival.number client.sender.latest = true ↔
        Sequence.distance base farthest.1 < Sequence.distance base arrival.number := by
      rw [held.latest]
      exact Sequence.newer_iff_of_near (near arrival.content (by simp))
        (near farthest (List.mem_append_left _ among))
    by_cases farther :
        Sequence.distance base farthest.1 < Sequence.distance base arrival.number
    · have fresh : client.sender.isStale arrival.number = false := by
        rw [Sender.isStale, order.mpr farther, Bool.not_true, Bool.and_false]
      refine ⟨arrival.content, by simp, holds_takeIn fresh valid, fun update listed => ?_⟩
      rcases List.mem_append.mp listed with before | now
      · exact UInt16.le_trans (above update before) (UInt16.le_of_lt farther)
      · rw [List.mem_singleton.mp now]
        exact UInt16.le_refl _
    · have stale : client.sender.isStale arrival.number = true := by
        rw [Sender.isStale, held.hasUpdate, Bool.eq_false_iff.mpr (mt order.mp farther)]
        rfl
      refine ⟨farthest, List.mem_append_left _ among, held.takeIn stale,
        fun update listed => ?_⟩
      rcases List.mem_append.mp listed with before | now
      · exact above update before
      · rw [List.mem_singleton.mp now]
        exact UInt16.not_lt.mp farther

/-- After any arrivals the client holds the farthest of them. -/
theorem holdsFarthest_foldl (base : SequenceNumber) (arrivals : List Arrival)
    (nothing : client.sender.hasUpdate = false)
    (near : ∀ arrival ∈ arrivals, Sequence.distance base arrival.number ≤ 32767)
    (valid : ∀ arrival ∈ arrivals, Avatar.refuses arrival.pose = false) :
    (arrivals.foldl takeIn client).HoldsFarthest base (arrivals.map Arrival.content) ∧
      (arrivals.foldl takeIn client).avatar.bounds = client.avatar.bounds := by
  apply foldl_along takeIn (fun earlier (holder : Client) =>
    holder.HoldsFarthest base (earlier.map Arrival.content) ∧
      holder.avatar.bounds = client.avatar.bounds)
  · exact ⟨Or.inl ⟨rfl, nothing⟩, rfl⟩
  · intro earlier arrival later split ⟨holds, bounds⟩
    have listed : arrival ∈ arrivals := by simp [split]
    refine ⟨?_, (bounds_takeIn _ arrival).trans bounds⟩
    rw [List.map_append]
    refine holds.takeIn (fun update among => ?_) (valid arrival listed)
    rw [← List.map_singleton, ← List.map_append, List.mem_map] at among
    obtain ⟨arrived, present, rfl⟩ := among
    apply near
    rw [split]
    rcases List.mem_append.mp present with before | now
    · exact List.mem_append_left _ before
    · rw [List.mem_singleton.mp now]
      simp

end Client

/-- The order of arrival does not matter. When updates with different numbers, all of which
lie within half of the circle ahead of some base, arrive at a client that holds nothing
yet, in any order and each any number of times, then the client holds the one whose number
lies farthest from the base: its placement and joints as they came, its scale brought within the
bounds, and its corner unless that is not finite. What the client's updates are read as from then
on describes this. -/
theorem farthest_of_arrivals {client : Client} (nothing : client.sender.hasUpdate = false)
    {updates : List (SequenceNumber × Pose)} (nonempty : updates ≠ [])
    (distinct : (updates.map Prod.fst).Nodup) {base : SequenceNumber}
    (near : ∀ update ∈ updates, Sequence.distance base update.1 ≤ 32767)
    (valid : ∀ update ∈ updates,
      update.2.position.isFinite = true ∧ update.2.joints.length ≤ 65535)
    {arrivals : List Arrival}
    (arriving : ∀ update, update ∈ arrivals.map Arrival.content ↔ update ∈ updates) :
    let after := arrivals.foldl Client.takeIn client
    ∃ farthest ∈ updates,
      (∀ update ∈ updates, update ≠ farthest →
        Sequence.distance base update.1 < Sequence.distance base farthest.1) ∧
      after.sender.latest = farthest.1 ∧
      after.avatar.pose = Avatar.sanitize client.avatar.bounds farthest.2 ∧
      after.avatar.pose.position = farthest.2.position ∧
      after.avatar.pose.orientation = farthest.2.orientation ∧
      after.avatar.pose.joints = farthest.2.joints ∧
      (∀ corner, after.avatar.pose.corner = some corner ↔
        farthest.2.corner = some corner ∧ corner.isFinite = true) ∧
      after.avatar.pose.scale = client.avatar.bounds.clamp
        (if farthest.2.scale.isFinite then farthest.2.scale else 1) ∧
      ∀ full, ∃ update, Update.format.read (after.avatar.encodeUpdate full) = .ok (update, []) ∧
        update.Describes after.avatar full := by
  intro after
  have listed {arrival : Arrival} (arrives : arrival ∈ arrivals) : arrival.content ∈ updates :=
    (arriving _).mp (List.mem_map_of_mem arrives)
  obtain ⟨holds, bounds⟩ := Client.holdsFarthest_foldl base arrivals nothing
    (fun arrival arrives => near _ (listed arrives))
    (fun arrival arrives => Avatar.refuses_eq_false_iff.mpr (valid _ (listed arrives)))
  rcases holds with ⟨none, -⟩ | ⟨farthest, among, held, above⟩
  · obtain ⟨update, present⟩ := List.exists_mem_of_ne_nil updates nonempty
    have arrived := (arriving update).mpr present
    rw [none] at arrived
    cases arrived
  · have present := (arriving farthest).mp among
    have stored : after.avatar.pose = Avatar.sanitize client.avatar.bounds farthest.2 := by
      rw [← bounds]
      exact held.pose
    have few : after.avatar.pose.joints.length ≤ maxJoints := by
      rw [stored]
      exact (valid farthest present).2
    obtain ⟨position, orientation, joints⟩ :
        after.avatar.pose.position = farthest.2.position ∧
          after.avatar.pose.orientation = farthest.2.orientation ∧
          after.avatar.pose.joints = farthest.2.joints := by
      rw [stored]
      exact ⟨rfl, rfl, rfl⟩
    refine ⟨farthest, present, fun update other apart => ?_, held.latest, stored, position,
      orientation, joints, fun corner => ?_, congrArg Pose.scale stored,
      Avatar.describes_of_encodeUpdate few⟩
    · refine UInt16.lt_of_le_of_ne (above update ((arriving update).mpr other)) fun same => ?_
      exact apart (List.inj_on_of_nodup_map distinct other present
        (Sequence.eq_of_distance_eq same))
    · rw [stored, Avatar.sanitize]
      exact Option.filter_eq_some_iff

/-- Number 0 comes after 65535: the update with that number stays, though the one before it
arrives later and it is repeated itself. -/
theorem farthest_after_wrap :
    let early : SequenceNumber × Pose := (65535, default)
    let late : SequenceNumber × Pose := (0, { (default : Pose) with position := ⟨1, 2, 3⟩ })
    let arrivals : List Arrival :=
      [⟨0, late.2, 60, 1⟩, ⟨65535, early.2, 61, 2⟩, ⟨0, late.2, 62, 3⟩]
    let after := arrivals.foldl Client.takeIn (Client.new default)
    after.sender.latest = 0 ∧ after.avatar.pose = Avatar.sanitize default late.2 := by
  intro early late arrivals after
  have distance : Sequence.distance 65535 late.1 = 1 := by decide
  have far : ¬ Sequence.distance 65535 late.1 < Sequence.distance 65535 early.1 := by decide
  have bounds : (Client.new default).avatar.bounds = default := rfl
  have apart : late ≠ early := fun same => absurd (congrArg Prod.fst same) (by decide)
  have near : ∀ update ∈ [early, late], Sequence.distance 65535 update.1 ≤ 32767 := by
    intro update listed
    rcases List.mem_pair.mp listed with rfl | rfl <;> decide
  have valid : ∀ update ∈ [early, late],
      update.2.position.isFinite = true ∧ update.2.joints.length ≤ 65535 := by
    intro update listed
    rcases List.mem_pair.mp listed with rfl | rfl <;> decide +kernel
  have arriving : ∀ update, update ∈ arrivals.map Arrival.content ↔ update ∈ [early, late] := by
    intro update
    change update ∈ [late, early, late] ↔ update ∈ [early, late]
    rw [List.mem_cons, List.mem_pair, or_left_comm, or_self]
  have nothing : (Client.new default).sender.hasUpdate = false := rfl
  obtain ⟨farthest, present, above, latest, pose, -⟩ := farthest_of_arrivals nothing
    (List.cons_ne_nil early [late]) (by decide) near valid arriving
  rcases List.mem_pair.mp present with rfl | rfl
  · exact absurd (above late (by simp) apart) far
  · rw [bounds] at pose
    simp only [after]
    exact ⟨latest, pose⟩

end AvatarRelay
