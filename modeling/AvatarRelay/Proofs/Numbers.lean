/-
# Numbers that wrap around

Arithmetic of the circle on which updates are numbered. Numbers that lie within half of
the circle from some base are ordered by their distances from it, and there the relay's
comparison agrees with that order. Over longer stretches the comparison of two numbers
says nothing; but the steps from each number to the next add up to the distance of the
last one as long as they do not go all the way round.
-/

import AvatarRelay.Sequence

namespace AvatarRelay.Sequence

/-- The steps that a sequence of numbers takes forward from a start, in total. -/
def advance (start : SequenceNumber) : List SequenceNumber → Nat
  | [] => 0
  | number :: rest => (distance start number).toNat + advance number rest

theorem toNat_distance (start finish : SequenceNumber) :
    (distance start finish).toNat = (65536 - start.toNat + finish.toNat) % 65536 :=
  UInt16.toNat_sub finish start

theorem distance_eq_zero_iff {start finish : SequenceNumber} :
    distance start finish = 0 ↔ finish = start := by
  rw [distance, UInt16.sub_eq_iff_eq_add, UInt16.zero_add]

theorem toNat_distance_add (first second third : SequenceNumber) :
    ((distance first second).toNat + (distance second third).toNat) % 65536 =
      (distance first third).toNat := by
  have one := first.toNat_lt
  have two := second.toNat_lt
  have three := third.toNat_lt
  rw [toNat_distance, toNat_distance, toNat_distance]
  omega

theorem eq_of_distance_eq {base first second : SequenceNumber}
    (same : distance base first = distance base second) : first = second :=
  (UInt16.sub_left_inj base).mp same

/-- Of two numbers in the half of the circle ahead of a base the newer one is farther from
the base. -/
theorem newer_iff_of_near {base first second : SequenceNumber}
    (near : distance base first ≤ 32767) (nearby : distance base second ≤ 32767) :
    newer first second = true ↔ distance base second < distance base first := by
  have zero : (0 : UInt16).toNat = 0 := rfl
  have half : (0x8000 : UInt16).toNat = 32768 := rfl
  have below : (32767 : UInt16).toNat = 32767 := rfl
  have one := first.toNat_lt
  have two := second.toNat_lt
  have start := base.toNat_lt
  simp only [UInt16.le_iff_toNat_le, toNat_distance, below] at near nearby
  simp only [newer, Bool.and_eq_true, bne_iff_ne, ne_eq, decide_eq_true_eq,
    UInt16.lt_iff_toNat_lt, ← UInt16.toNat_inj, toNat_distance, zero, half]
  omega

theorem newer_next (number : SequenceNumber) : newer (number + 1) number = true := by
  have one : distance number (number + 1) = 1 := by
    rw [distance, UInt16.add_comm, UInt16.add_sub_cancel]
  rw [newer, one]
  rfl

/-- Only a number that the receiver was sent is held back, and zero never is. -/
theorem standing_eq_heldBack_iff {sent produced : SequenceNumber} :
    standing sent produced = .heldBack ↔ produced = sent ∧ sent ≠ 0 := by
  unfold standing
  by_cases same : sent = produced
  · subst same
    by_cases zero : sent = 0
    · simp only [zero, ne_eq, not_true_eq_false, and_false, iff_false]
      decide
    · simp [zero]
  · rw [if_neg (by simp [same])]
    constructor
    · intro held
      split at held <;> cases held
    · rintro ⟨rfl, -⟩
      exact absurd rfl same

/-- Steps that do not go all the way round lead as far as they come to in total. -/
theorem advance_mod (start : SequenceNumber) (numbers : List SequenceNumber) :
    advance start numbers % 65536 = (distance start (numbers.getLastD start)).toNat := by
  induction numbers generalizing start with
  | nil =>
    have still : distance start start = 0 := distance_eq_zero_iff.mpr rfl
    rw [List.getLastD_nil, still]
    rfl
  | cons number rest ih =>
    rw [List.getLastD_cons, ← toNat_distance_add start number, ← ih, advance, Nat.add_mod_mod]

theorem advance_eq_zero_iff {start : SequenceNumber} {numbers : List SequenceNumber} :
    advance start numbers = 0 ↔ ∀ number ∈ numbers, number = start := by
  induction numbers generalizing start with
  | nil => simp [advance]
  | cons number rest ih =>
    have still : (distance start number).toNat = 0 ↔ number = start := by
      rw [← distance_eq_zero_iff, ← UInt16.toNat_inj]
      rfl
    rw [advance, Nat.add_eq_zero_iff, still, ih, List.forall_mem_cons]
    apply and_congr_right
    rintro rfl
    rfl

/-- A sequence that does not go all the way round ends where it starts only if it takes no
step at all. -/
theorem getLastD_eq_iff {start : SequenceNumber} {numbers : List SequenceNumber}
    (short : advance start numbers < 65536) :
    numbers.getLastD start = start ↔ ∀ number ∈ numbers, number = start := by
  rw [← advance_eq_zero_iff, ← Nat.mod_eq_of_lt short, advance_mod, ← distance_eq_zero_iff,
    ← UInt16.toNat_inj]
  rfl

/-- Numbers pass zero on their way from the one that was sent, which is not the largest of
all. -/
def PassesZero (sent : SequenceNumber) (numbers : List SequenceNumber) : Prop :=
  sent ≠ 65535 ∧ 65536 ≤ sent.toNat + advance sent numbers

/-- Numbers that do not go all the way round end out of order exactly if they pass zero. -/
theorem outOfOrder_iff_passesZero {sent : SequenceNumber} {numbers : List SequenceNumber}
    (short : advance sent numbers < 65536) :
    outOfOrder sent (numbers.getLastD sent) = true ↔ PassesZero sent numbers := by
  have total := advance_mod sent numbers
  rw [Nat.mod_eq_of_lt short, toNat_distance] at total
  have start := sent.toNat_lt
  have finish := (numbers.getLastD sent).toNat_lt
  rw [outOfOrder, Bool.and_eq_true, decide_eq_true_eq, bne_iff_ne, UInt16.lt_iff_toNat_lt,
    PassesZero, and_comm, total]
  refine and_congr_right fun _ => ?_
  omega

theorem outOfOrder_zero (produced : SequenceNumber) : outOfOrder 0 produced = false := by
  simp [outOfOrder]

/-- What is out of order is sent nevertheless. -/
theorem sends_of_outOfOrder {sent produced : SequenceNumber}
    (disordered : outOfOrder sent produced = true) : (standing sent produced).sends = true := by
  have below : produced ≠ sent := by
    rintro rfl
    simp [outOfOrder] at disordered
  have new : standing sent produced ≠ .heldBack := fun held =>
    below (standing_eq_heldBack_iff.mp held).1
  cases answer : standing sent produced with
  | heldBack => exact absurd answer new
  | gap | normal => rfl

end AvatarRelay.Sequence
