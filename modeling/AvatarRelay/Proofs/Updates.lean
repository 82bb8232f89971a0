/-
# Updates

What an update says of the avatar that it is built from. As long as the pose has no more
joints than can be counted in two bytes, the update says how many there are, lists some of
them in their order, each under its own index, and is read back from its bytes as it is.
-/

import AvatarRelay.Avatar.Basic
import AvatarRelay.Proofs.Messages

namespace AvatarRelay

/-- The update lists a joint under an index. -/
def Update.Lists (update : Update) (index : Nat) : Prop :=
  ∃ entry ∈ update.joints, entry.1.toNat = index

/-- An update describes an avatar: its placement bit for bit, how many joints it has, and joints
under their indexes, in order. Those are all joints if the update is full, and otherwise the ones
that the snapshot lacks or has with other numbers. -/
structure Update.Describes (update : Update) (avatar : Avatar) (complete : Bool) : Prop where
  position : update.position = avatar.pose.position
  orientation : update.orientation = avatar.pose.orientation
  scale : update.scale = avatar.pose.scale
  full : update.full = complete
  count : update.jointCount.toNat = avatar.pose.joints.length
  ordered : update.joints.Pairwise fun first second => first.1 < second.1
  joints : ∀ index joint, (index, joint) ∈ update.joints ↔
    avatar.pose.joints[index.toNat]? = some joint ∧
      (complete = true ∨
        ∀ sent, avatar.sentJoints[index.toNat]? = some sent → sent.numEq joint = false)

namespace Avatar

theorem refuses_eq_false_iff {pose : Pose} :
    refuses pose = false ↔ pose.position.isFinite = true ∧ pose.joints.length ≤ maxJoints := by
  rw [refuses, Bool.or_eq_false_iff, Bool.not_eq_false', decide_eq_false_iff_not, Nat.not_lt]

variable {avatar : Avatar} (few : avatar.pose.joints.length ≤ maxJoints) (full : Bool)

include few

theorem jointCount_update :
    (avatar.update full).jointCount.toNat = avatar.pose.joints.length :=
  UInt16.toNat_ofNat_of_lt' (Nat.lt_succ_of_le few)

/-- The listed joints are those that differ from the snapshot, or all of them. -/
theorem mem_joints_update {index : UInt16} {joint : Joint} :
    (index, joint) ∈ (avatar.update full).joints ↔
      avatar.pose.joints[index.toNat]? = some joint ∧
        (full || avatar.jointChanged index.toNat joint) = true := by
  simp only [update, List.mem_filterMap, Prod.exists, List.mk_mem_zipIdx_iff_getElem?,
    Option.ite_none_right_eq_some, Option.some.injEq, Prod.mk.injEq]
  constructor
  · rintro ⟨joint, place, there, listed, rfl, rfl⟩
    obtain ⟨below, -⟩ := List.getElem?_eq_some_iff.mp there
    rw [UInt16.toNat_ofNat_of_lt' (Nat.lt_of_lt_of_le below (Nat.le_succ_of_le few))]
    exact ⟨there, listed⟩
  · rintro ⟨there, listed⟩
    exact ⟨joint, index.toNat, there, listed, UInt16.ofNat_toNat, rfl⟩

theorem entry_of_update {entry : UInt16 × Joint} (listed : entry ∈ (avatar.update full).joints) :
    entry.1 < (avatar.update full).jointCount ∧
      avatar.pose.joints[entry.1.toNat]? = some entry.2 := by
  obtain ⟨there, -⟩ := (mem_joints_update few full).mp listed
  refine ⟨?_, there⟩
  rw [UInt16.lt_iff_toNat_lt, jointCount_update few]
  exact (List.getElem?_eq_some_iff.mp there).1

theorem lists_update_iff {index : Nat} {joint : Joint}
    (there : avatar.pose.joints[index]? = some joint) :
    (avatar.update full).Lists index ↔ (full || avatar.jointChanged index joint) = true := by
  obtain ⟨below, -⟩ := List.getElem?_eq_some_iff.mp there
  have small : (UInt16.ofNat index).toNat = index :=
    UInt16.toNat_ofNat_of_lt' (Nat.lt_of_lt_of_le below (Nat.le_succ_of_le few))
  constructor
  · rintro ⟨entry, listed, rfl⟩
    obtain ⟨here, chosen⟩ := (mem_joints_update few full).mp listed
    rw [there] at here
    cases here
    exact chosen
  · intro chosen
    refine ⟨(UInt16.ofNat index, joint), (mem_joints_update few full).mpr ?_, small⟩
    rw [small]
    exact ⟨there, chosen⟩

/-- The indexes of the listed joints increase. -/
theorem pairwise_joints_update :
    (avatar.update full).joints.Pairwise fun first second => first.1 < second.1 := by
  have places : avatar.pose.joints.zipIdx.Pairwise fun first second => first.2 < second.2 := by
    rw [← List.pairwise_map, List.zipIdx_map_snd]
    exact List.pairwise_lt_range'
  rw [update, List.pairwise_filterMap]
  refine places.imp_of_mem fun {first second} _ later before entry chosen other chosenToo => ?_
  have below : second.2 < avatar.pose.joints.length :=
    (List.getElem?_eq_some_iff.mp (List.mk_mem_zipIdx_iff_getElem?.mp later)).1
  cases (Option.ite_none_right_eq_some.mp chosen).2
  cases (Option.ite_none_right_eq_some.mp chosenToo).2
  have small : second.2 < UInt16.size := Nat.lt_of_lt_of_le below (Nat.le_succ_of_le few)
  rw [UInt16.lt_iff_toNat_lt, UInt16.toNat_ofNat_of_lt' (Nat.lt_trans before small),
    UInt16.toNat_ofNat_of_lt' small]
  exact before

/-- The bytes of an update are read as this update, to their end. -/
theorem read_encodeUpdate :
    Update.format.read (avatar.encodeUpdate full) = .ok (avatar.update full, []) := by
  have listed : (avatar.update full).joints.length ≤ avatar.pose.joints.length := by
    rw [← avatar.pose.joints.length_zipIdx]
    exact List.length_filterMap_le _ _
  have fits : (avatar.update full).Fits := by
    unfold Update.Fits lengthLimit
    unfold maxJoints at few
    omega
  have read := Update.exact_format.read_write fits []
  rwa [List.append_nil] at read

/-- What is read back from the bytes of an update describes the avatar. -/
theorem describes_of_encodeUpdate :
    ∃ update, Update.format.read (avatar.encodeUpdate full) = .ok (update, []) ∧
      update.Describes avatar full := by
  refine ⟨avatar.update full, read_encodeUpdate few full,
    { position := rfl
      orientation := rfl
      scale := rfl
      full := rfl
      count := jointCount_update few full
      ordered := pairwise_joints_update few full
      joints := fun index joint => (mem_joints_update few full).trans (and_congr_right' ?_) }⟩
  rw [Bool.or_eq_true, jointChanged]
  refine or_congr_right ?_
  cases avatar.sentJoints[index.toNat]? <;> simp

end Avatar

end AvatarRelay
