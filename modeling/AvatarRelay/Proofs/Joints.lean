/-
# Joints at the receiver

A receiver keeps one list of joints of every sender. An update with every joint replaces
it; any other one changes its length and overwrites the joints that are listed. What the
receiver holds afterwards is told joint by joint: the listed ones are those of the pose,
and every other one is as it was held before. So the receiver ends up with the pose if it
held the sender's snapshot, from which the update was told.
-/

import Mathlib.Data.List.Forall2
import AvatarRelay.Proofs.Bounds
import AvatarRelay.Proofs.Sessions
import AvatarRelay.Proofs.Updates

namespace AvatarRelay

namespace Joint

variable {first second third : Joint}

theorem numEq_trans (one : first.numEq second = true) (two : second.numEq third = true) :
    first.numEq third = true := by
  simp only [numEq, Quat.numEq, Vec3.numEq, Vec3.all₂, Bool.and_eq_true] at one two ⊢
  obtain ⟨⟨⟨⟨x, y⟩, z⟩, w⟩, ⟨right, up⟩, back⟩ := one
  obtain ⟨⟨⟨⟨x', y'⟩, z'⟩, w'⟩, ⟨right', up'⟩, back'⟩ := two
  exact ⟨⟨⟨⟨Binary32.numEq_trans x x', Binary32.numEq_trans y y'⟩, Binary32.numEq_trans z z'⟩,
    Binary32.numEq_trans w w'⟩,
    ⟨Binary32.numEq_trans right right', Binary32.numEq_trans up up'⟩,
    Binary32.numEq_trans back back'⟩

/-- Two joints are the same, bit for bit or as numbers. A joint with a NaN is only the same
as its own copy. -/
def Alike (first second : Joint) : Prop :=
  first = second ∨ first.numEq second = true

instance : DecidableRel Alike := fun _ _ => inferInstanceAs (Decidable (_ ∨ _))

theorem Alike.refl (joint : Joint) : joint.Alike joint :=
  Or.inl rfl

theorem Alike.trans (one : first.Alike second) (two : second.Alike third) :
    first.Alike third := by
  rcases one with rfl | one
  · exact two
  · rcases two with rfl | two
    · exact Or.inr one
    · exact Or.inr (numEq_trans one two)

/-- Lists of joints that are the same, one by one. -/
abbrev AllAlike : List Joint → List Joint → Prop :=
  List.Forall₂ Alike

theorem allAlike_iff {held joints : List Joint} :
    AllAlike held joints ↔ held.length = joints.length ∧
      ∀ (index : Nat) (one joint : Joint), held[index]? = some one →
        joints[index]? = some joint → one.Alike joint := by
  rw [AllAlike, List.forall₂_iff_get]
  apply and_congr_right
  intro _
  constructor
  · intro alike index one joint here there
    obtain ⟨below, rfl⟩ := List.getElem?_eq_some_iff.mp here
    obtain ⟨belowToo, rfl⟩ := List.getElem?_eq_some_iff.mp there
    exact alike index below belowToo
  · intro alike index below belowToo
    exact alike index _ _ (List.getElem?_eq_getElem below) (List.getElem?_eq_getElem belowToo)

theorem AllAlike.trans {held between joints : List Joint} (one : AllAlike held between)
    (two : AllAlike between joints) : AllAlike held joints := by
  induction one generalizing joints with
  | nil => exact two
  | cons first rest ih =>
    cases two with
    | cons second others => exact List.Forall₂.cons (first.trans second) (ih others)

end Joint

namespace Update

/-- A list of some length: what is there, and joints at rest beyond. -/
def resized (count : Nat) (held : List Joint) : List Joint :=
  (List.range count).map fun index => held[index]?.getD default

/-- A list in which some joints were overwritten, each at its index. -/
def overwritten (held : List Joint) (entries : List (UInt16 × Joint)) : List Joint :=
  entries.foldl (fun held entry => held.set entry.1.toNat entry.2) held

/-- What a receiver holds once it has applied an update to what it held. -/
def applyTo (update : Update) (held : List Joint) : List Joint :=
  if update.full then update.joints.map Prod.snd
  else overwritten (resized update.jointCount.toNat held) update.joints

theorem getElem?_resized (count : Nat) (held : List Joint) (index : Nat) :
    (resized count held)[index]? =
      if index < count then some (held[index]?.getD default) else none := by
  by_cases below : index < count
  · simp [resized, below]
  · simp [resized, below]

theorem length_overwritten (held : List Joint) (entries : List (UInt16 × Joint)) :
    (overwritten held entries).length = held.length := by
  induction entries generalizing held with
  | nil => rfl
  | cons first rest ih => exact (ih _).trans List.length_set

theorem getElem?_overwritten_of_not_mem {held : List Joint} {entries : List (UInt16 × Joint)}
    {index : Nat} (absent : ∀ entry ∈ entries, entry.1.toNat ≠ index) :
    (overwritten held entries)[index]? = held[index]? := by
  induction entries generalizing held with
  | nil => rfl
  | cons first rest ih =>
    obtain ⟨here, absent⟩ := List.forall_mem_cons.mp absent
    refine (ih absent).trans ?_
    exact List.getElem?_set_ne here

/-- Of entries with different indexes each is found at its own. -/
theorem getElem?_overwritten_of_mem {held : List Joint} {entries : List (UInt16 × Joint)}
    (ordered : entries.Pairwise fun first second => first.1 < second.1)
    {entry : UInt16 × Joint} (listed : entry ∈ entries) (below : entry.1.toNat < held.length) :
    (overwritten held entries)[entry.1.toNat]? = some entry.2 := by
  induction entries generalizing held with
  | nil => cases listed
  | cons first rest ih =>
    obtain ⟨before, ordered⟩ := List.pairwise_cons.mp ordered
    rcases List.mem_cons.mp listed with rfl | later
    · have unlisted : ∀ other ∈ rest, other.1.toNat ≠ entry.1.toNat := fun other later =>
        Nat.ne_of_gt (UInt16.lt_iff_toNat_lt.mp (before other later))
      exact (getElem?_overwritten_of_not_mem unlisted).trans (List.getElem?_set_self below)
    · exact ih ordered later (by rwa [List.length_set])

end Update

namespace Avatar

variable {avatar : Avatar} (few : avatar.pose.joints.length ≤ maxJoints)

/-- An update with every joint replaces whatever was held. -/
theorem applyTo_update_full (held : List Joint) :
    (avatar.update true).applyTo held = avatar.pose.joints := by
  have full : (avatar.update true).full = true := rfl
  rw [Update.applyTo, full, if_pos rfl, joints_update_full, List.map_map]
  exact List.zipIdx_map_fst 0 avatar.pose.joints

include few

theorem length_applyTo_update (full : Bool) (held : List Joint) :
    ((avatar.update full).applyTo held).length = avatar.pose.joints.length := by
  cases full with
  | true => rw [applyTo_update_full]
  | false =>
    have partly : (avatar.update false).full = false := rfl
    rw [Update.applyTo, partly, if_neg Bool.false_ne_true, Update.length_overwritten,
      Update.resized, List.length_map, List.length_range, jointCount_update few]

/-- A list of as many joints as the pose has, overwritten by an update: the joints that it lists
are those of the pose, and all others stay. -/
theorem getElem?_overwritten_update (full : Bool) {held : List Joint}
    (long : held.length = avatar.pose.joints.length) {index : Nat} {joint : Joint}
    (there : avatar.pose.joints[index]? = some joint) :
    (Update.overwritten held (avatar.update full).joints)[index]? =
      if full || avatar.jointChanged index joint then some joint else held[index]? := by
  have lists := lists_update_iff few full there
  split
  · next chosen =>
    obtain ⟨entry, listed, rfl⟩ := lists.mpr chosen
    obtain ⟨below, -⟩ := List.getElem?_eq_some_iff.mp there
    rw [← there, (entry_of_update few full listed).2]
    exact Update.getElem?_overwritten_of_mem (pairwise_joints_update few full) listed
      (by rwa [long])
  · next omitted =>
    exact Update.getElem?_overwritten_of_not_mem fun entry listed place =>
      omitted (lists.mp ⟨entry, listed, place⟩)

/-- What is held once an update was applied: the joints that it lists, and what was held
before in the place of all others. -/
theorem getElem?_applyTo_update (full : Bool) (held : List Joint) {index : Nat} {joint : Joint}
    (there : avatar.pose.joints[index]? = some joint) :
    ((avatar.update full).applyTo held)[index]? =
      some (if full || avatar.jointChanged index joint then joint
        else held[index]?.getD default) := by
  cases full with
  | true => rw [applyTo_update_full, there, Bool.true_or, if_pos rfl]
  | false =>
    have partly : (avatar.update false).full = false := rfl
    obtain ⟨below, -⟩ := List.getElem?_eq_some_iff.mp there
    rw [Update.applyTo, partly, if_neg Bool.false_ne_true, jointCount_update few,
      getElem?_overwritten_update few false
        (by rw [Update.resized, List.length_map, List.length_range]) there,
      Update.getElem?_resized, if_pos below]
    split <;> rfl

/-- What is held once an update was applied is the pose exactly if every joint that the update
leaves out was held before. -/
theorem allAlike_applyTo_iff (full : Bool) (held : List Joint) :
    Joint.AllAlike ((avatar.update full).applyTo held) avatar.pose.joints ↔
      ∀ (index : Nat) (joint : Joint), avatar.pose.joints[index]? = some joint →
        full = true ∨ avatar.jointChanged index joint = true ∨
          (held[index]?.getD default).Alike joint := by
  rw [Joint.allAlike_iff]
  constructor
  · rintro ⟨-, alike⟩ index joint there
    have same := alike index _ joint (getElem?_applyTo_update few full held there) there
    rw [← or_assoc, ← Bool.or_eq_true]
    cases listed : full || avatar.jointChanged index joint with
    | true => exact Or.inl rfl
    | false =>
      rw [listed, if_neg Bool.false_ne_true] at same
      exact Or.inr same
  · intro alike
    refine ⟨length_applyTo_update few full held, fun index one joint here there => ?_⟩
    rw [getElem?_applyTo_update few full held there] at here
    cases here
    cases listed : full || avatar.jointChanged index joint with
    | true => exact Joint.Alike.refl joint
    | false =>
      obtain ⟨partly, unchanged⟩ := Bool.or_eq_false_iff.mp listed
      have known := alike index joint there
      rw [partly, unchanged] at known
      simpa using known

omit few in
theorem jointChanged_eq_false_iff {index : Nat} {joint : Joint} :
    avatar.jointChanged index joint = false ↔
      ∃ shown, avatar.sentJoints[index]? = some shown ∧ shown.numEq joint = true := by
  unfold jointChanged
  cases avatar.sentJoints[index]? <;> simp

/-- A receiver that held the sender's snapshot, joint by joint, holds the pose once it has
applied an update. -/
theorem allAlike_applyTo (full : Bool) {held : List Joint}
    (current : full = true ∨ Joint.AllAlike held avatar.sentJoints.toList) :
    Joint.AllAlike ((avatar.update full).applyTo held) avatar.pose.joints := by
  rw [allAlike_applyTo_iff few]
  intro index joint there
  refine current.imp_right fun alike => ?_
  cases changed : avatar.jointChanged index joint with
  | true => exact Or.inl rfl
  | false =>
    obtain ⟨shown, stands, same⟩ := jointChanged_eq_false_iff.mp changed
    obtain ⟨length, pairs⟩ := Joint.allAlike_iff.mp alike
    rw [← Array.getElem?_toList] at stands
    obtain ⟨below, -⟩ := List.getElem?_eq_some_iff.mp stands
    have known := List.getElem?_eq_getElem (length ▸ below : index < held.length)
    rw [known, Option.getD_some]
    exact Or.inr ((pairs index _ shown known stands).trans (Or.inr same))

end Avatar

end AvatarRelay
