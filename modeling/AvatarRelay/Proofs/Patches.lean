/-
# An update as a patch of the snapshot

An avatar takes over poses and snapshots of its joints in any order. An update that is built in
between lists the joints of the pose, each under its index: every one if it is full, and else
those that the last snapshot lacks or has another joint for. So whoever has the snapshot has the
pose again, joint by joint, once the snapshot is brought to its length and the listed joints are
put in their places.
-/

import AvatarRelay.Proofs.Joints

namespace AvatarRelay

namespace Avatar

/-- What changes the joints of an avatar or their snapshot. -/
inductive Change
  /-- A pose is taken over, unless it must be refused. -/
  | pose (pose : Pose)
  /-- The snapshot is taken. -/
  | snapshot

def change (avatar : Avatar) : Change → Avatar
  | .pose pose => (avatar.applyPose? pose).getD avatar
  | .snapshot => avatar.snapshotJoints

def changed (avatar : Avatar) (changes : List Change) : Avatar :=
  changes.foldl change avatar

/-- The joints of the pose as it stood when the last snapshot was taken, or those given if none
was taken. -/
def noted (avatar : Avatar) (joints : List Joint) : List Change → List Joint
  | [] => joints
  | .pose pose :: rest => (avatar.change (.pose pose)).noted joints rest
  | .snapshot :: rest => (avatar.change .snapshot).noted avatar.pose.joints rest

theorem few_change {avatar : Avatar} (few : avatar.pose.joints.length ≤ maxJoints)
    (change : Change) : (avatar.change change).pose.joints.length ≤ maxJoints := by
  cases change with
  | snapshot => exact few
  | pose pose =>
    rw [Avatar.change, applyPose?]
    split
    · exact few
    · next admitted => exact (refuses_eq_false_iff.mp (Bool.eq_false_iff.mpr admitted)).2

theorem few_changed {avatar : Avatar} (few : avatar.pose.joints.length ≤ maxJoints)
    (changes : List Change) : (avatar.changed changes).pose.joints.length ≤ maxJoints := by
  induction changes generalizing avatar with
  | nil => exact few
  | cons change rest ih => exact ih (few_change few change)

theorem sentJoints_changed (avatar : Avatar) (changes : List Change) :
    (avatar.changed changes).sentJoints.toList =
      avatar.noted avatar.sentJoints.toList changes := by
  induction changes generalizing avatar with
  | nil => rfl
  | cons change rest ih =>
    refine (ih (avatar.change change)).trans ?_
    cases change with
    | snapshot => rfl
    | pose pose =>
      have same : (avatar.change (.pose pose)).sentJoints = avatar.sentJoints := by
        rw [Avatar.change, applyPose?]
        split <;> rfl
      rw [noted, same]

/-- For every avatar that poses and snapshots have led to, and for either kind of update: it says
how many joints the pose has and lists some of them in their order, under their indexes; it
leaves one out exactly if it is not full and the last snapshot has an equal one in this place;
and the snapshot, cut off or filled up with whatever joint to the number that the update says,
becomes the joints of the pose once the listed ones are put in their places, the listed ones
themselves and else equal ones. -/
theorem patches_of_changes (bounds : ScaleBounds) (changes : List Change) (full : Bool)
    (filler : Joint) :
    let avatar := (new bounds).changed changes
    let snapshot := (new bounds).noted [] changes
    let update := avatar.update full
    let count := update.jointCount.toNat
    let patched :=
      Update.overwritten ((snapshot.take count).rightpad count filler) update.joints
    count = avatar.pose.joints.length ∧
    update.joints.Pairwise (fun first second => first.1 < second.1) ∧
    (∀ entry ∈ update.joints, entry.1 < update.jointCount ∧
      avatar.pose.joints[entry.1.toNat]? = some entry.2) ∧
    (∀ index joint, avatar.pose.joints[index]? = some joint →
      (¬ update.Lists index ↔ full = false ∧
        ∃ shown, snapshot[index]? = some shown ∧ shown.numEq joint = true)) ∧
    patched.length = count ∧
    ∀ index joint, avatar.pose.joints[index]? = some joint →
      ∃ one, patched[index]? = some one ∧
        (update.Lists index → one = joint) ∧
        (¬ update.Lists index → one.numEq joint = true) := by
  intro avatar snapshot update count patched
  have few : avatar.pose.joints.length ≤ maxJoints := few_changed (Nat.zero_le _) changes
  have taken : avatar.sentJoints.toList = snapshot := sentJoints_changed (new bounds) changes
  have counted : count = avatar.pose.joints.length := jointCount_update few full
  have long : ((snapshot.take count).rightpad count filler).length =
      avatar.pose.joints.length := by
    rw [List.length_rightpad, List.length_take]
    omega
  have omits (index : Nat) (joint : Joint) (there : avatar.pose.joints[index]? = some joint) :
      ¬ update.Lists index ↔ full = false ∧
        ∃ shown, snapshot[index]? = some shown ∧ shown.numEq joint = true := by
    rw [lists_update_iff few full there, Bool.not_eq_true, Bool.or_eq_false_iff,
      jointChanged_eq_false_iff, ← taken]
    simp only [Array.getElem?_toList]
  refine ⟨counted, pairwise_joints_update few full, fun entry => entry_of_update few full, omits,
    (Update.length_overwritten _ _).trans (long.trans counted.symm), ?_⟩
  intro index joint there
  have found : patched[index]? = _ := getElem?_overwritten_update few full long there
  have chosen := lists_update_iff few full there
  split at found
  · next listed =>
    exact ⟨joint, found, fun _ => rfl, fun unlisted => absurd (chosen.mpr listed) unlisted⟩
  · next unlisted =>
    obtain ⟨-, shown, noted, same⟩ := (omits index joint there).mp (mt chosen.mp unlisted)
    have below : index < (snapshot.take count).length := by
      have one := (List.getElem?_eq_some_iff.mp noted).1
      have two := (List.getElem?_eq_some_iff.mp there).1
      rw [List.length_take]
      omega
    refine ⟨shown, ?_, fun listed => absurd (chosen.mp listed) unlisted, fun _ => same⟩
    rw [found, List.rightpad, List.getElem?_append_left below, List.getElem?_take_of_lt]
    · exact noted
    · exact counted ▸ (List.getElem?_eq_some_iff.mp there).1

/-- A joint that only differs in the sign of a zero is left out, one that moved and one that is
new are listed. -/
example :
    let joint (x y : Binary32) : Joint := ⟨Quat.identity, ⟨x, y, 0⟩⟩
    let start : Pose := { (default : Pose) with joints := [joint 0 0, joint 0 0] }
    let moved : Pose := { (default : Pose) with joints := [joint (-0) 0, joint 0 1, joint 0 0] }
    let avatar := (new ScaleBounds.widest).changed [.pose start, .snapshot, .pose moved]
    (avatar.update false).joints.map Prod.fst = [1, 2] := by
  decide

end Avatar

end AvatarRelay
