/-
# Percentiles

The place of a percentile is the whole part of a rounded share of a length. A length that fits into
a significand is exact, and a share of less than one of it stays below it even after rounding. So
the place is that of an entry, and the bound that is put on it cuts nothing off. A larger share
gives no earlier place: in a sorted list its percentile is no smaller, and none exceeds the last
entry.
-/

import AvatarRelay.Count
import AvatarRelay.Proofs.Magnitudes

namespace AvatarRelay

-- Powers are those of the core library, whatever other instances are in scope.
attribute [local instance (2000)] instPowNat

namespace Binary32

variable {number first second : Binary32}

theorem ofNat_spec {value : Nat} (fits : value ≤ 2 ^ (fractionPlaces + 1)) :
    0 ≤ ofNat value ∧ (ofNat value).isFinite = true ∧
      (ofNat value).units = value * 2 ^ unitPlaces := by
  obtain ⟨pattern, magnitude⟩ := exists_unitsOfPattern_eq fits unitPlaces
  have finite : pattern < infinityPattern := by
    refine unitsOfPattern_strictMono.lt_iff_lt.mp ?_
    rw [magnitude]
    exact Nat.lt_of_le_of_lt (Nat.mul_le_mul_right _ fits) (by decide)
  have exact : (ofNat value).pattern = pattern := by
    rw [ofNat, ofFraction, pattern_ofUnits, ← magnitude]
    exact nearestPattern_unitsOfPattern (Nat.le_of_lt finite)
  refine ⟨nonneg_ofUnits fun signed => absurd signed Bool.false_ne_true, ?_, ?_⟩
  · rw [isFinite, exact]
    exact decide_eq_true finite
  · rw [units, exact, magnitude]

theorem floorNat_of_nonneg (nonneg : 0 ≤ number) (finite : number.isFinite = true) :
    number.floorNat = number.units / 2 ^ unitPlaces := by
  rw [floorNat, finite]
  cases signed : number.signBit with
  | true =>
    rw [units_of_pattern_zero ((nonneg_iff.mp nonneg).2 signed), Nat.zero_div]
    rfl
  | false => rfl

theorem floorNat_mono (nonneg : 0 ≤ first) (le : first ≤ second)
    (finite : second.isFinite = true) : first.floorNat ≤ second.floorNat := by
  rw [floorNat_of_nonneg nonneg (isFinite_of_le nonneg le finite),
    floorNat_of_nonneg (le_trans nonneg le) finite]
  exact Nat.div_le_div_right
    (unitsOfPattern_mono ((le_iff_pattern nonneg (le_trans nonneg le)).mp le))

theorem floorNat_lt {value : Nat} (fits : value ≤ 2 ^ (fractionPlaces + 1)) (nonneg : 0 ≤ number)
    (less : number < ofNat value) : number.floorNat < value := by
  obtain ⟨whole, finite, units⟩ := ofNat_spec fits
  rw [floorNat_of_nonneg nonneg (isFinite_of_le nonneg (le_of_lt less) finite),
    Nat.div_lt_iff_lt_mul (Nat.two_pow_pos _), ← units]
  exact unitsOfPattern_strictMono ((lt_iff_pattern nonneg whole).mp less)

end Binary32

open Binary32

variable {share larger : Binary32} {length : Nat}

section Places

variable (fits : length ≤ 2 ^ (fractionPlaces + 1)) (nonneg : 0 ≤ share)

include fits nonneg

/-- A share of less than one of a length is a place in a list of that length. -/
theorem floorNat_share_lt (positive : 0 < length) (part : share < 1) :
    (ofNat length * share).floorNat < length := by
  obtain ⟨whole, finite, units⟩ := ofNat_spec fits
  have leading : 2 ^ fractionPlaces < (ofNat length).units := by
    rw [units]
    exact Nat.lt_of_lt_of_le (by decide) (Nat.le_mul_of_pos_left _ positive)
  have finiteToo := isFinite_of_le nonneg (le_of_lt part) (by decide)
  exact floorNat_lt fits (mul_of_nonneg whole finite nonneg finiteToo).1
    (mul_lt_left whole finite leading nonneg part)

/-- The bound that is put on the place of a percentile cuts nothing off. -/
theorem percentilePlace_eq (positive : 0 < length) (part : share < 1) :
    percentilePlace share length = (ofNat length * share).floorNat :=
  Nat.min_eq_left (Nat.le_pred_of_lt (floorNat_share_lt fits nonneg positive part))

/-- A larger share gives no earlier place. -/
theorem percentilePlace_mono (le : share ≤ larger) (part : larger ≤ 1) :
    percentilePlace share length ≤ percentilePlace larger length := by
  obtain ⟨whole, exact, -⟩ := ofNat_spec fits
  have nonnegToo := le_trans nonneg le
  have finite := isFinite_of_le nonnegToo part (by decide)
  have product := (mul_of_nonneg whole exact nonneg (isFinite_of_le nonneg le finite)).1
  have productToo := (mul_of_nonneg whole exact nonnegToo finite).1
  have bounded := isFinite_of_le productToo (mul_le_left whole exact nonnegToo part) exact
  have floors := floorNat_mono product (mul_le_mul_left whole exact nonneg le finite) bounded
  unfold percentilePlace
  omega

end Places

section Entries

variable {sorted : List Nat}

section NonEmpty

variable (nonempty : 0 < sorted.length)

include nonempty

theorem getElem?_percentilePlace (share : Binary32) :
    sorted[percentilePlace share sorted.length]? = some (percentile share sorted) := by
  have inside : percentilePlace share sorted.length < sorted.length :=
    Nat.lt_of_le_of_lt (Nat.min_le_right _ _) (Nat.sub_one_lt_of_lt nonempty)
  rw [percentile, List.getD_eq_getElem?_getD, List.getElem?_eq_getElem inside, Option.getD_some]

/-- The percentile of a list that is not empty is the entry at a share of its length. -/
theorem getElem?_share (fits : sorted.length ≤ 2 ^ (fractionPlaces + 1)) (nonneg : 0 ≤ share)
    (part : share < 1) :
    sorted[(ofNat sorted.length * share).floorNat]? = some (percentile share sorted) := by
  rw [← percentilePlace_eq fits nonneg nonempty part]
  exact getElem?_percentilePlace nonempty share

theorem getElem?_last :
    sorted[sorted.length - 1]? = some (sorted.getLast?.getD 0) := by
  have inside : sorted.length - 1 < sorted.length := Nat.sub_one_lt_of_lt nonempty
  rw [List.getLast?_eq_getElem?, List.getElem?_eq_getElem inside, Option.getD_some]

end NonEmpty

variable (inOrder : sorted.Pairwise (· ≤ ·))

include inOrder

/-- An entry of a sorted list does not exceed one that does not come before it. -/
theorem le_of_places {first second one two : Nat} (le : first ≤ second)
    (here : sorted[first]? = some one) (there : sorted[second]? = some two) : one ≤ two := by
  obtain ⟨inside, rfl⟩ := List.getElem?_eq_some_iff.mp here
  obtain ⟨insideToo, rfl⟩ := List.getElem?_eq_some_iff.mp there
  rcases Nat.eq_or_lt_of_le le with rfl | less
  · exact Nat.le_refl _
  · exact List.pairwise_iff_getElem.mp inOrder first second inside insideToo less

theorem le_last_of_mem {entry : Nat} (listed : entry ∈ sorted) :
    entry ≤ sorted.getLast?.getD 0 := by
  obtain ⟨place, here⟩ := List.mem_iff_getElem?.mp listed
  obtain ⟨inside, -⟩ := List.getElem?_eq_some_iff.mp here
  exact le_of_places inOrder (Nat.le_sub_one_of_lt inside) here
    (getElem?_last (Nat.zero_lt_of_lt inside))

variable (nonempty : 0 < sorted.length)

include nonempty

theorem percentile_le_percentile (fits : sorted.length ≤ 2 ^ (fractionPlaces + 1))
    (nonneg : 0 ≤ share) (le : share ≤ larger) (part : larger ≤ 1) :
    percentile share sorted ≤ percentile larger sorted :=
  le_of_places inOrder (percentilePlace_mono fits nonneg le part)
    (getElem?_percentilePlace nonempty share) (getElem?_percentilePlace nonempty larger)

theorem percentile_le_last (share : Binary32) :
    percentile share sorted ≤ sorted.getLast?.getD 0 :=
  le_last_of_mem inOrder (List.mem_of_getElem? (getElem?_percentilePlace nonempty share))

end Entries

end AvatarRelay
