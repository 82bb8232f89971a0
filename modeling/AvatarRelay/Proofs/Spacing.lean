/-
# Spaced changes

Two controllers make a change at most once in a number of calls: they count the calls since the
last change, in a count that stays at its largest value, and begin again from zero at a change.
Here a run of such a controller is told by whether each of its calls makes a change. Two changes
then have so many calls without one between them, which bounds the number of changes in a run.
-/

import AvatarRelay.Count

namespace AvatarRelay

theorem toNat_countUp (count : UInt32) :
    (countUp count).toNat = min (count.toNat + 1) 0xffffffff := by
  have bound := count.toNat_lt
  unfold countUp
  split
  · next full =>
    rw [full]
    rfl
  · next room =>
    have below : count.toNat ≠ 0xffffffff := fun top => room (UInt32.toNat_inj.mp top)
    have one : (1 : UInt32).toNat = 1 := rfl
    rw [UInt32.toNat_add, one]
    omega

/-- The calls that have gone by since the last change, if before the first of them some already
had. -/
def callsSince (waited : Nat) (changes : List Bool) : Nat :=
  changes.foldl (fun waited change => if change then 0 else waited + 1) waited

/-- Counts that agree up to a limit do so after further calls. -/
theorem callsSince_congr {limit one two : Nat} (same : min one limit = min two limit)
    (changes : List Bool) :
    min (callsSince one changes) limit = min (callsSince two changes) limit := by
  induction changes generalizing one two with
  | nil => exact same
  | cons change rest ih =>
    cases change with
    | true => rfl
    | false =>
      have next : min (one + 1) limit = min (two + 1) limit := by omega
      exact ih next

/-- A change is only made once a number of calls have gone by since the last one, `waited` of
them before the first call. -/
def Spaced (gap : Nat) : Nat → List Bool → Prop
  | _, [] => True
  | waited, true :: rest => gap ≤ waited ∧ Spaced gap 0 rest
  | waited, false :: rest => Spaced gap (waited + 1) rest

namespace Spaced

variable {gap waited longer : Nat} {changes : List Bool}

theorem mono (spaced : Spaced gap waited changes) (le : waited ≤ longer) :
    Spaced gap longer changes := by
  induction changes generalizing waited longer with
  | nil => trivial
  | cons change rest ih =>
    cases change with
    | true => exact ⟨Nat.le_trans spaced.1 le, spaced.2⟩
    | false => exact ih spaced (Nat.succ_le_succ le)

/-- Before a change at least as many calls have gone by as the gap has. -/
theorem le_count_before (spaced : Spaced gap waited changes) {index : Nat}
    (changed : changes[index]? = some true) :
    gap ≤ waited + (changes.take index).count false := by
  induction changes generalizing waited index with
  | nil => cases changed
  | cons change rest ih =>
    cases index with
    | zero =>
      cases Option.some.inj changed
      exact spaced.1
    | succ index =>
      rw [List.take_succ_cons]
      cases change with
      | true =>
        have before := ih spaced.2 changed
        rw [List.count_cons_of_ne (by decide)]
        omega
      | false =>
        have before := ih spaced changed
        rw [List.count_cons_self]
        omega

/-- After a change the spacing starts anew. -/
theorem drop (spaced : Spaced gap waited changes) {index : Nat}
    (changed : changes[index]? = some true) : Spaced gap 0 (changes.drop (index + 1)) := by
  induction changes generalizing waited index with
  | nil => cases changed
  | cons change rest ih =>
    cases index with
    | zero =>
      cases Option.some.inj changed
      exact spaced.2
    | succ index =>
      cases change with
      | true => exact ih spaced.2 changed
      | false => exact ih spaced changed

/-- Between two changes there are at least as many calls without one as the gap has. -/
theorem le_count_between (spaced : Spaced gap waited changes) {first second : Nat}
    (less : first < second) (one : changes[first]? = some true)
    (two : changes[second]? = some true) :
    gap ≤ ((changes.drop (first + 1)).take (second - (first + 1))).count false := by
  have last : (changes.drop (first + 1))[second - (first + 1)]? = some true := by
    rw [List.getElem?_drop, Nat.add_sub_cancel' less]
    exact two
  have between := (spaced.drop one).le_count_before last
  rwa [Nat.zero_add] at between

theorem apart (spaced : Spaced gap waited changes) {first second : Nat} (less : first < second)
    (one : changes[first]? = some true) (two : changes[second]? = some true) :
    first + gap < second := by
  have between := Nat.le_trans (spaced.le_count_between less one two) List.count_le_length
  rw [List.length_take] at between
  omega

/-- Changes are so rare that each of them, with the gap after it, has its share of the calls. -/
theorem count_le (spaced : Spaced gap waited changes) :
    (gap + 1) * changes.count true ≤ changes.length + min waited gap := by
  induction changes generalizing waited with
  | nil => exact Nat.zero_le _
  | cons change rest ih =>
    cases change with
    | true =>
      have le := ih spaced.2
      have full := spaced.1
      rw [List.count_cons_self, Nat.mul_add, Nat.mul_one, List.length_cons]
      omega
    | false =>
      have le := ih spaced
      rw [List.count_cons_of_ne (by decide), List.length_cons]
      omega

end Spaced

end AvatarRelay
