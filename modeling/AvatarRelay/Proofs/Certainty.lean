/-
# Certainty

Chance plays no part in a visit when an unchanged identity is never sent again, updates are
always full or never, and the full rate distance over the candidate's distance is at least
one. What such visits add does not depend on the stream of chance, and so neither on the visits
before: a turn comes to the same in whichever order its candidates are visited, but for the
order of what it sends.
-/

import Mathlib.Data.List.Nodup
import Mathlib.Data.List.Perm.Basic
import AvatarRelay.Proofs.Draws
import AvatarRelay.Proofs.Sizes
import AvatarRelay.Proofs.Tallies

namespace AvatarRelay

/-- Chance plays no part when a receiver of a full rate distance visits a candidate. -/
structure PassContext.Certain (context : PassContext) (own : Candidate)
    (fullRateDistance : Binary32) (other : Candidate) : Prop where
  /-- An unchanged identity is never sent again. -/
  identities : context.settings.identityProbability.numEq 0 = true
  /-- Updates after the first one are never full, or always. -/
  fullness : context.settings.fullShare.numEq 0 = true ∨
    context.settings.fullShare.numEq 1 = true
  /-- A candidate that comes to admission is admitted. -/
  admission : own.apart other = false → context.busy other.id = false →
    own.muted other = false → (own.distanceTo other).numEq 0 = true ∨
      1 ≤ fullRateDistance / own.distanceTo other

namespace Visit

variable {context : PassContext} {own other : Candidate} {visit : Visit}

theorem identityDue_of_never (never : context.settings.identityProbability.numEq 0 = true)
    (known : Bool) (random : Random) :
    (identityDue context other known random).1 =
      (!known || other.identityChangedSince context.lastPass) := by
  unfold identityDue
  split
  · next certain => exact certain.symm
  · next unknown =>
    rw [Bool.eq_false_iff.mpr unknown]
    exact decide_eq_false (random.not_unit_lt never)

theorem admission_of_near {fullRateDistance distance : Binary32}
    (near : distance.numEq 0 = true ∨ 1 ≤ fullRateDistance / distance) (random : Random) :
    (admission fullRateDistance distance random).1 = true :=
  admission_iff.mpr (near.imp_right fun sure => Binary32.le_of_lt (random.unit_lt sure))

theorem fullness_of_settled (settled : context.settings.fullShare.numEq 0 = true ∨
    context.settings.fullShare.numEq 1 = true) (first : Bool) (random : Random) :
    (fullness context first random).1 = (first || context.settings.fullShare.numEq 1) := by
  rw [Bool.eq_iff_iff, fullness_iff, Bool.or_eq_true]
  refine or_congr_right ?_
  rcases settled with never | always
  · have other : ¬ context.settings.fullShare.numEq 1 = true := fun always =>
      random.not_unit_lt never (random.unit_lt (Binary32.le_of_numEq always))
    simp [random.not_unit_lt never, other]
  · simp [random.unit_lt (Binary32.le_of_numEq always), always]

/-- What a visit without chance adds depends on what the receiver has of the candidate. -/
theorem gain_congr {first second : Visit}
    (certain : context.Certain own first.receiver.fullRateDistance other)
    (distances : first.receiver.fullRateDistance = second.receiver.fullRateDistance)
    (entries : first.receiver.lastForwarded[other.id]? = second.receiver.lastForwarded[other.id]?)
    (introductions : first.receiver.introduced.contains other.id =
      second.receiver.introduced.contains other.id) :
    first.gain context own other = second.gain context own other := by
  have hearing : first.hearing context own other = second.hearing context own other := by
    simp only [hearing, identityDue_of_never certain.identities, introductions]
  have full : first.sendsFull context own other = second.sendsFull context own other := by
    simp only [sendsFull, fullness_of_settled certain.fullness,
      Std.ExtTreeMap.contains_eq_isSome_getElem?, entries]
  unfold gain
  split
  · rfl
  next together =>
  split
  · rfl
  next free =>
  split
  · rfl
  next outside =>
  have near := certain.admission (Bool.eq_false_iff.mpr together) (Bool.eq_false_iff.mpr free)
    (Bool.eq_false_iff.mpr outside)
  have one : first.admits context own other = true := admission_of_near near _
  have two : second.admits context own other = true := by
    rw [distances] at near
    exact admission_of_near near _
  rw [if_pos one, if_pos two, hearing, full, entries]

/-- Whatever distance such a visit measures is a number without a sign. -/
theorem distance_of_gain (certain : context.Certain own visit.receiver.fullRateDistance other)
    {distance : Binary32} (measured : (visit.gain context own other).distance = some distance) :
    distance.isNaN = false ∧ distance.signBit = false := by
  unfold gain at measured
  split at measured
  · cases measured
  next together =>
  split at measured
  · cases measured
  next free =>
  split at measured
  · cases measured
  next outside =>
  have near := certain.admission (Bool.eq_false_iff.mpr together) (Bool.eq_false_iff.mpr free)
    (Bool.eq_false_iff.mpr outside)
  have here : distance = own.distanceTo other := by
    split at measured
    · exact (Option.some.inj measured).symm
    · exact (Option.some.inj measured).symm
  subst here
  refine ⟨?_, Vec3.signBit_distanceTo _ _⟩
  rcases near with zero | sure
  · exact (Binary32.numEq_iff.mp zero).1
  · exact Binary32.isNaN_of_div (Binary32.le_iff.mp sure).2.1

end Visit

namespace Gain

variable {one two : Gain}

theorem contains_silence (gain : Gain) (id : PeerId) (muted : PeerSet) (other : PeerId) :
    (gain.silence id muted).contains other =
      if other = id then gain.muted.getD (muted.contains other) else muted.contains other := by
  unfold silence
  cases gain.muted with
  | none => simp
  | some answer =>
    cases answer with
    | true =>
      by_cases here : other = id
      · simp [here]
      · simp [here, Ne.symm here, Std.ExtTreeSet.contains_insert]
    | false =>
      by_cases here : other = id
      · simp [here]
      · simp [here, Ne.symm here, Std.ExtTreeSet.contains_erase]

theorem silence_comm {first second : PeerId} (apart : first ≠ second) (muted : PeerSet) :
    two.silence second (one.silence first muted) =
      one.silence first (two.silence second muted) := by
  apply Std.ExtTreeSet.ext_contains
  intro id
  simp only [contains_silence]
  by_cases here : id = first
  · simp [here, apart]
  · simp [here]

theorem widen_comm
    (oneReal : ∀ distance, one.distance = some distance →
      distance.isNaN = false ∧ distance.signBit = false)
    (twoReal : ∀ distance, two.distance = some distance →
      distance.isNaN = false ∧ distance.signBit = false)
    (farthest : Option Binary32) :
    two.widen (one.widen farthest) = one.widen (two.widen farthest) := by
  unfold widen
  cases near : one.distance with
  | none => rfl
  | some first =>
    cases far : two.distance with
    | none => rfl
    | some second =>
      obtain ⟨firstReal, firstUnsigned⟩ := oneReal first near
      obtain ⟨secondReal, secondUnsigned⟩ := twoReal second far
      cases farthest with
      | none =>
        exact congrArg some
          (Binary32.max_comm firstReal secondReal firstUnsigned secondUnsigned)
      | some farthest =>
        exact congrArg some
          (Binary32.max_right_comm firstReal secondReal firstUnsigned secondUnsigned)

end Gain

namespace Receiver

/-- Gains of different candidates can be absorbed in either order. -/
theorem absorb_comm (receiver : Receiver) {first second : Candidate}
    (apart : first.id ≠ second.id) (one two : Gain) :
    (receiver.absorb first one).absorb second two =
      (receiver.absorb second two).absorb first one := by
  have lastForwarded : ((receiver.absorb first one).absorb second two).lastForwarded =
      ((receiver.absorb second two).absorb first one).lastForwarded := by
    apply Std.ExtTreeMap.ext_getElem?
    intro id
    simp only [absorb]
    cases one.update.isSome <;> cases two.update.isSome <;>
      simp only [Bool.false_eq_true, if_false, if_true, PeerMap.getElem?_insert_eq]
    by_cases here : id = first.id
    · simp [here, apart]
    · simp [here]
  have introduced : ((receiver.absorb first one).absorb second two).introduced =
      ((receiver.absorb second two).absorb first one).introduced := by
    apply Std.ExtTreeSet.ext_contains
    intro id
    simp only [absorb]
    cases one.introduced <;> cases two.introduced <;>
      simp [Std.ExtTreeSet.contains_insert, Bool.or_left_comm]
  have total : ((receiver.absorb first one).absorb second two).outOfOrderTotal =
      ((receiver.absorb second two).absorb first one).outOfOrderTotal := by
    simp only [absorb]
    ac_rfl
  simp only [absorb] at lastForwarded introduced total ⊢
  simp only [lastForwarded, introduced, total, Gain.silence_comm apart, Nat.add_right_comm]

end Receiver

section Orders

variable {gains regained : Candidate → Gain} {others rest : List Candidate}
  (shuffled : others.Perm rest) (same : ∀ other ∈ others, gains other = regained other)

include shuffled same

theorem Gain.drawsOf_perm : drawsOf gains others = drawsOf regained rest := by
  rw [drawsOf, List.map_congr_left fun other listed => congrArg Gain.draws (same other listed)]
  exact (shuffled.map _).sum_nat

theorem Gain.countsOf_perm : countsOf gains others = countsOf regained rest := by
  rw [countsOf, List.foldl_ext _ (fun counts other => counts + (regained other).counts) _
    fun counts other listed => by rw [same other listed]]
  exact shuffled.foldl_eq' (fun _ _ _ _ counts => counts.add_right_comm _ _) _

end Orders

namespace Visit

/-- Two turns have come to the same, but for chance and counters, and for the order of what
is sent. -/
structure Alike (first second : Visit) : Prop where
  receiver : first.receiver = second.receiver
  identities : first.identities.Perm second.identities
  segments : first.batch.segments.Perm second.batch.segments
  farthest : first.farthest = second.farthest

/-- Turns begin alike, whatever chance and counters they begin with. -/
theorem alike_start (receiver : Receiver) (one two : Random) (first second : Counters) :
    (start receiver one first).Alike (start receiver two second) :=
  ⟨rfl, List.Perm.refl _, List.Perm.refl _, rfl⟩

/-- Turns stay alike when they absorb the same gains in different orders. -/
theorem Alike.absorbAll {first second : Visit} (alike : first.Alike second)
    {gains regained : Candidate → Gain} {others rest : List Candidate}
    (shuffled : others.Perm rest) (same : ∀ other ∈ others, gains other = regained other)
    (distinct : (others.map Candidate.id).Nodup)
    (real : ∀ other ∈ others, ∀ distance, (gains other).distance = some distance →
      distance.isNaN = false ∧ distance.signBit = false) :
    (first.absorbAll gains others).Alike (second.absorbAll regained rest) := by
  have again : first.absorbAll gains others = first.absorbAll regained others :=
    List.foldl_ext _ _ _ fun visit other listed => by rw [same other listed]
  rw [again, absorbAll_eq, absorbAll_eq, alike.receiver, alike.farthest]
  refine ⟨?_, ?_, ?_, ?_⟩
  · refine shuffled.foldl_eq' (fun one listed two listedToo receiver => ?_) _
    by_cases one_two : one.id = two.id
    · rw [List.inj_on_of_nodup_map distinct listed listedToo one_two]
    · exact receiver.absorb_comm one_two _ _
  · exact alike.identities.append (shuffled.flatMap_right _)
  · exact alike.segments.append (shuffled.flatMap_right _)
  · refine shuffled.foldl_eq' (fun one listed two listedToo farthest => ?_) _
    rw [← same one listed, ← same two listedToo]
    exact Gain.widen_comm (real one listed) (real two listedToo) farthest

end Visit

theorem Batch.isEmpty_perm {first second : Batch}
    (shuffled : first.segments.Perm second.segments) : first.isEmpty = second.isEmpty := by
  rw [isEmpty, isEmpty, Bool.eq_iff_iff, List.isEmpty_iff_length_eq_zero,
    List.isEmpty_iff_length_eq_zero, shuffled.length_eq]

namespace OutboundPacket

/-- What a receiver is sent in one turn and in another one is the same, but for its order:
the same identity packets, and then one batch with the same segments, if there are any. -/
def Rearranged (first second : List OutboundPacket) : Prop :=
  ∃ (identities others : List OutboundPacket) (batch other : Batch),
    (∀ packet ∈ identities, ∃ avatar identity, packet = .avatarIdentity avatar identity) ∧
    first = identities ++ (if batch.isEmpty then [] else [.bulkAvatarData batch]) ∧
    second = others ++ (if other.isEmpty then [] else [.bulkAvatarData other]) ∧
    identities.Perm others ∧ batch.segments.Perm other.segments

theorem rearranged_nil : Rearranged [] [] :=
  ⟨[], [], Batch.empty, Batch.empty, List.forall_mem_nil _, rfl, rfl, List.Perm.refl _,
    List.Perm.refl _⟩

theorem encodedLength_perm {first second : Batch}
    (shuffled : first.segments.Perm second.segments) :
    (bulkAvatarData first).encodedLength = (bulkAvatarData second).encodedLength := by
  have counted : first.wireLength = second.wireLength := (shuffled.map Segment.wireLength).sum_nat
  rw [encodedLength_bulk, encodedLength_bulk, Batch.length_write, Batch.length_write, counted,
    Batch.size, shuffled.length_eq, Batch.size]

theorem totalLength_perm {identities others : List OutboundPacket} {batch other : Batch}
    (introductions : identities.Perm others) (segments : batch.segments.Perm other.segments) :
    totalLength (identities ++ if batch.isEmpty then [] else [.bulkAvatarData batch]) =
      totalLength (others ++ if other.isEmpty then [] else [.bulkAvatarData other]) := by
  have first : totalLength identities = totalLength others := (introductions.map _).sum_nat
  rw [totalLength_append, totalLength_append, first, Batch.isEmpty_perm segments]
  split
  · rfl
  · exact congrArg (_ + [·].sum) (encodedLength_perm segments)

theorem Rearranged.totalLength {first second : List OutboundPacket}
    (rearranged : Rearranged first second) : totalLength first = totalLength second := by
  obtain ⟨identities, others, batch, other, -, rfl, rfl, introductions, segments⟩ := rearranged
  exact totalLength_perm introductions segments

end OutboundPacket

namespace Visit

variable {first second : Visit} (alike : first.Alike second)

include alike

theorem Alike.charges : first.charges = second.charges := by
  rw [Visit.charges, Visit.charges, alike.identities.length_eq, Batch.size,
    alike.segments.length_eq, Batch.size, packets, packets,
    OutboundPacket.totalLength_perm alike.identities alike.segments]

theorem Alike.settled (now : Instant) : first.settled now = second.settled now := by
  simp only [Visit.settled, alike.receiver, alike.farthest, Batch.isEmpty_perm alike.segments,
    OutboundPacket.encodedLength_perm alike.segments]

theorem Alike.rearranged (introducing : ∀ packet ∈ first.identities,
      ∃ avatar identity, packet = .avatarIdentity avatar identity) :
    OutboundPacket.Rearranged first.packets second.packets :=
  ⟨_, _, _, _, introducing, rfl, rfl, alike.identities, alike.segments⟩

end Visit

end AvatarRelay
