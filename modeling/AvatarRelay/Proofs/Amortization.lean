/-
# Adjustments are made once in a while

A call of the rate controller either counts, and answers that nothing changed, or it sets the
distance to the one that it answers with and begins to count anew. So in a run of calls the
distance is the one answered last, the count tells the calls since then, and all else stays.
What was observed decides when a change is made, but never sooner than the passes between
changes allow.
-/

import AvatarRelay.Proofs.Spacing
import AvatarRelay.RateControl

namespace AvatarRelay

def Adjustment.isChange (adjustment : Adjustment) : Bool :=
  adjustment.distance?.isSome

theorem Adjustment.distance?_eq_none_iff {adjustment : Adjustment} :
    adjustment.distance? = none ↔ adjustment = .unchanged := by
  cases adjustment <;> simp [Adjustment.distance?]

theorem Adjustment.isChange_of_distance? {adjustment : Adjustment} {distance : Binary32}
    (answer : adjustment.distance? = some distance) : adjustment.isChange = true := by
  rw [Adjustment.isChange, answer]
  rfl

namespace RateController

variable (controller : RateController)

def after (receiver : Receiver) (rates : List Binary32) : Receiver :=
  rates.foldl (fun receiver rate => (controller.step receiver rate).1) receiver

def answers (receiver : Receiver) : List Binary32 → List Adjustment
  | [] => []
  | rate :: rest =>
    (controller.step receiver rate).2 :: answers (controller.step receiver rate).1 rest

section Bounded

variable (wide : controller.passesBetweenChanges.toNat < 0xffffffff)

include wide

/-- There is room for one more as long as calls are only counted. -/
theorem toNat_count_add_one {waited : UInt32} (waiting : waited ≤ controller.passesBetweenChanges) :
    (waited + 1).toNat = waited.toNat + 1 := by
  have one : (1 : UInt32).toNat = 1 := rfl
  have within := UInt32.le_iff_toNat_le.mp waiting
  rw [UInt32.toNat_add, one]
  omega

/-- A call counts, up to the largest count, or it changes the distance to the one it answers
with, once more calls have been counted than must lie between changes. -/
theorem step_cases (receiver : Receiver) (rate : Binary32) :
    (∃ waited : UInt32, waited.toNat = min (receiver.passesSinceChange.toNat + 1) 0xffffffff ∧
      controller.step receiver rate =
        ({ receiver with passesSinceChange := waited }, .unchanged)) ∨
    ∃ (adjustment : Adjustment) (distance : Binary32),
      adjustment.distance? = some distance ∧
      controller.passesBetweenChanges.toNat + 1 ≤ receiver.passesSinceChange.toNat ∧
      controller.step receiver rate =
        ({ receiver with fullRateDistance := distance, passesSinceChange := 0 }, adjustment) := by
  by_cases waiting : receiver.passesSinceChange ≤ controller.passesBetweenChanges
  · left
    have within := UInt32.le_iff_toNat_le.mp waiting
    refine ⟨receiver.passesSinceChange + 1, ?_, if_pos waiting⟩
    rw [controller.toNat_count_add_one wide waiting]
    omega
  · have passed := UInt32.lt_iff_toNat_lt.mp (UInt32.not_le.mp waiting)
    rw [step, if_neg waiting]
    dsimp only
    cases answer :
        (controller.adjust rate receiver.fullRateDistance receiver.farthest).distance? with
    | none =>
      left
      rw [Adjustment.distance?_eq_none_iff.mp answer]
      exact ⟨countUp receiver.passesSinceChange, toNat_countUp _, rfl⟩
    | some distance =>
      right
      exact ⟨_, distance, answer, passed, rfl⟩

/-- Changes are one more call apart than the passes that must lie between them. -/
theorem spaced_answers (receiver : Receiver) (rates : List Binary32) :
    Spaced (controller.passesBetweenChanges.toNat + 1) receiver.passesSinceChange.toNat
      ((controller.answers receiver rates).map Adjustment.isChange) := by
  induction rates generalizing receiver with
  | nil => trivial
  | cons rate rest ih =>
    rw [answers, List.map_cons]
    rcases controller.step_cases wide receiver rate with
      ⟨waited, count, step⟩ | ⟨adjustment, distance, answer, passed, step⟩
    · rw [step]
      refine (ih { receiver with passesSinceChange := waited }).mono ?_
      rw [count]
      exact Nat.min_le_left _ _
    · rw [step, Adjustment.isChange_of_distance? answer]
      exact ⟨passed, ih { receiver with fullRateDistance := distance, passesSinceChange := 0 }⟩

/-- What a run makes of a receiver: the distance is the one answered last, and the count is that
of the calls since then. -/
theorem after_eq (receiver : Receiver) (rates : List Binary32) :
    ∃ waited : UInt32,
      waited.toNat = min (callsSince receiver.passesSinceChange.toNat
        ((controller.answers receiver rates).map Adjustment.isChange)) 0xffffffff ∧
      controller.after receiver rates =
        { receiver with
          fullRateDistance := ((controller.answers receiver rates).filterMap
            Adjustment.distance?).getLastD receiver.fullRateDistance
          passesSinceChange := waited } := by
  induction rates generalizing receiver with
  | nil =>
    have bound := receiver.passesSinceChange.toNat_lt
    refine ⟨receiver.passesSinceChange, ?_, rfl⟩
    change _ = min receiver.passesSinceChange.toNat 0xffffffff
    omega
  | cons rate rest ih =>
    rw [answers, after, List.foldl_cons, ← after]
    rcases controller.step_cases wide receiver rate with
      ⟨waited, count, step⟩ | ⟨adjustment, distance, answer, passed, step⟩
    · rw [step]
      obtain ⟨final, counted, result⟩ := ih { receiver with passesSinceChange := waited }
      have same : min waited.toNat 0xffffffff =
          min (receiver.passesSinceChange.toNat + 1) 0xffffffff := by omega
      exact ⟨final, counted.trans (callsSince_congr same _), result⟩
    · rw [step]
      obtain ⟨final, counted, result⟩ :=
        ih { receiver with fullRateDistance := distance, passesSinceChange := 0 }
      refine ⟨final, ?_, ?_⟩
      · rw [counted, List.map_cons, Adjustment.isChange_of_distance? answer]
        rfl
      · rw [result, List.filterMap_cons_some answer, List.getLastD_cons]

omit wide in
theorem length_answers (receiver : Receiver) (rates : List Binary32) :
    (controller.answers receiver rates).length = rates.length := by
  induction rates generalizing receiver with
  | nil => rfl
  | cons rate rest ih => exact congrArg Nat.succ (ih _)

/-- In every run of calls, whatever rates were observed: between two answers of a change there
are more calls without one than the passes between changes; the distance is the one answered
last, or as it was if there was none; the count is that of the calls since the last change, up
to the largest count, and counting does not go over it; and nothing else of the receiver
changes. -/
theorem amortized_of_run (receiver : Receiver) (rates : List Binary32) :
    let answers := controller.answers receiver rates
    let changes := answers.map Adjustment.isChange
    let final := controller.after receiver rates
    answers.length = rates.length ∧
    (∀ first second, first < second → changes[first]? = some true →
      changes[second]? = some true →
      controller.passesBetweenChanges.toNat + 1 ≤
        ((changes.drop (first + 1)).take (second - (first + 1))).count false) ∧
    final.fullRateDistance =
      (answers.filterMap Adjustment.distance?).getLastD receiver.fullRateDistance ∧
    final.passesSinceChange.toNat =
      min (callsSince receiver.passesSinceChange.toNat changes) 0xffffffff ∧
    (final.passesSinceChange ≤ controller.passesBetweenChanges →
      (final.passesSinceChange + 1).toNat = final.passesSinceChange.toNat + 1) ∧
    final = { receiver with
      fullRateDistance := final.fullRateDistance
      passesSinceChange := final.passesSinceChange } := by
  obtain ⟨waited, counted, result⟩ := controller.after_eq wide receiver rates
  have spaced := controller.spaced_answers wide receiver rates
  refine ⟨controller.length_answers receiver rates, fun first second => spaced.le_count_between, ?_⟩
  rw [result]
  exact ⟨rfl, counted, controller.toNat_count_add_one wide, rfl⟩

end Bounded

/-- With one pass between changes, over budget: the third of six calls makes a change and so does
the sixth, and what was observed in between does not matter. -/
theorem amortized_twice :
    let controller : RateController := ⟨100, 1⟩
    let rates : List Binary32 := [200, 200, 200, 0, Binary32.nan, 200]
    let changes := (controller.answers Receiver.new rates).map Adjustment.isChange
    let final := controller.after Receiver.new rates
    changes = [false, false, true, false, false, true] ∧
      2 ≤ ((changes.drop 3).take 2).count false ∧ final.passesSinceChange.toNat = 0 := by
  intro controller rates changes final
  have shape : changes = [false, false, true, false, false, true] := by decide
  obtain ⟨-, spaced, -, counted, -⟩ :=
    controller.amortized_of_run (by decide) Receiver.new rates
  refine ⟨shape, spaced 2 5 (by decide) ?_ ?_, counted.trans ?_⟩
  · exact congrArg (·[2]?) shape
  · exact congrArg (·[5]?) shape
  · change min (callsSince 0 changes) 0xffffffff = 0
    rw [shape]
    decide

end RateController

end AvatarRelay
