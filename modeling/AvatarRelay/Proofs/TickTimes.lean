/-
# Times of ticks

Metrics keep the latest times of ticks and publish percentiles of them. After any run of ticks
the history is made up of the latest times, oldest first, as many as are kept; the percentiles
are worked out anew from the sorted history with every tick, once there are enough times, and are
zero before. The history never gets shorter, so once it is long enough it stays so.
-/

import Mathlib.Data.List.Sort
import AvatarRelay.Metrics.Basic
import AvatarRelay.Proofs.Percentiles

namespace AvatarRelay.Metrics

-- Powers are those of the core library, whatever other instances are in scope.
attribute [local instance (2000)] instPowNat

def timed (metrics : Metrics) (durations : List Duration) : Metrics :=
  durations.foldl recordTickTime metrics

/-- The time of a tick as it is recorded: whole microseconds in a count of eight bytes. -/
def recordedMicros (duration : Duration) : Nat :=
  Duration.inMicros duration % UInt64.size

/-- A history is made up of the latest of some times, as many as are kept. -/
structure Keeps (history times : List Nat) : Prop where
  latest : history <:+ times
  length : history.length = min times.length maxHistory

/-- Metrics publish percentiles of a history: the entries at three places once it is sorted, or
zeros if it is too short. -/
structure Publishes (metrics : Metrics) (history : List Nat) : Prop where
  few : history.length < minHistory →
    metrics.tickMicros95 = 0 ∧ metrics.tickMicros99 = 0 ∧ metrics.tickMicrosMax = 0
  enough : minHistory ≤ history.length →
    metrics.tickMicros95 = UInt64.ofNat (percentile 0.95 history.mergeSort) ∧
      metrics.tickMicros99 = UInt64.ofNat (percentile 0.99 history.mergeSort) ∧
      metrics.tickMicrosMax = UInt64.ofNat (history.mergeSort.getLast?.getD 0)

/-- What metrics hold after the ticks that took some times. -/
structure Follows (metrics : Metrics) (times : List Nat) : Prop where
  kept : Keeps metrics.tickHistory times
  counted : metrics.tickCount = UInt64.ofNat times.length
  published : metrics.Publishes metrics.tickHistory

variable {metrics : Metrics} {history times : List Nat}

theorem Keeps.extend (kept : Keeps history times) (micros : Nat) :
    Keeps (extendHistory history micros) (times ++ [micros]) := by
  obtain ⟨⟨earlier, rfl⟩, length⟩ := kept
  refine ⟨(List.drop_suffix _ _).trans ⟨earlier, (List.append_assoc ..).symm⟩, ?_⟩
  simp only [extendHistory, List.length_drop, List.length_append, List.length_singleton] at length ⊢
  omega

/-- A tick publishes the percentiles of the history that it leaves. -/
theorem Follows.record (follows : metrics.Follows times) (duration : Duration) :
    (metrics.recordTickTime duration).Follows (times ++ [recordedMicros duration]) := by
  obtain ⟨kept, counted, published⟩ := follows
  unfold recordTickTime recordedMicros
  dsimp only
  generalize Duration.inMicros duration % UInt64.size = micros
  have extended := kept.extend micros
  have count : metrics.tickCount + 1 = UInt64.ofNat (times ++ [micros]).length := by
    rw [counted, List.length_append, UInt64.ofNat_add]
    rfl
  -- The history is named first: compared with a field of a record it would be unfolded.
  generalize extendHistory metrics.tickHistory micros = history at extended
  have longer : metrics.tickHistory.length ≤ history.length := by
    rw [kept.length, extended.length, List.length_append]
    omega
  split
  · next few =>
    exact ⟨extended, count, fun _ => published.few (Nat.lt_of_le_of_lt longer few),
      fun enough => absurd few (Nat.not_lt.mpr enough)⟩
  · next enough =>
    exact ⟨extended, count, fun few => absurd few enough, fun _ => ⟨rfl, rfl, rfl⟩⟩

theorem follows_new : new.Follows [] where
  kept := ⟨List.nil_suffix, (Nat.zero_min _).symm⟩
  counted := rfl
  published := ⟨fun _ => ⟨rfl, rfl, rfl⟩, fun enough => absurd enough (by decide)⟩

theorem Follows.timed (follows : metrics.Follows times) (durations : List Duration) :
    (metrics.timed durations).Follows (times ++ durations.map recordedMicros) := by
  induction durations generalizing metrics times with
  | nil => rwa [List.map_nil, List.append_nil]
  | cons duration rest ih =>
    rw [List.map_cons, List.append_cons, Metrics.timed, List.foldl_cons, ← Metrics.timed]
    exact ih (follows.record duration)

theorem shares_within : (0 : Binary32) ≤ 0.95 ∧ (0.95 : Binary32) ≤ 0.99 ∧ (0.95 : Binary32) < 1 ∧
    (0 : Binary32) ≤ 0.99 ∧ (0.99 : Binary32) < 1 := by
  decide

theorem length_mergeSort_pos (enough : minHistory ≤ history.length) :
    0 < history.mergeSort.length := by
  rw [List.length_mergeSort]
  exact Nat.lt_of_lt_of_le (by decide) enough

/-- The length of a history is exact in single precision. -/
theorem length_mergeSort_fits (few : history.length ≤ maxHistory) :
    history.mergeSort.length ≤ 2 ^ (Binary32.fractionPlaces + 1) := by
  rw [List.length_mergeSort]
  exact few.trans (by decide)

namespace Publishes

variable (published : metrics.Publishes history) (few : history.length ≤ maxHistory)
  (fits : ∀ time ∈ history, time < UInt64.size)

include published fits

theorem toNat_eq (enough : minHistory ≤ history.length) :
    metrics.tickMicros95.toNat = percentile 0.95 history.mergeSort ∧
      metrics.tickMicros99.toNat = percentile 0.99 history.mergeSort ∧
      metrics.tickMicrosMax.toNat = history.mergeSort.getLast?.getD 0 := by
  obtain ⟨most, nearlyAll, largest⟩ := published.enough enough
  have nonempty := length_mergeSort_pos enough
  have whole {place time : Nat} (here : history.mergeSort[place]? = some time) :
      (UInt64.ofNat time).toNat = time :=
    UInt64.toNat_ofNat_of_lt'
      (fits time ((List.mergeSort_perm history _).mem_iff.mp (List.mem_of_getElem? here)))
  rw [most, nearlyAll, largest]
  exact ⟨whole (getElem?_percentilePlace nonempty _),
    whole (getElem?_percentilePlace nonempty _), whole (getElem?_last nonempty)⟩

include few

theorem entries (enough : minHistory ≤ history.length) :
    let sorted := history.mergeSort
    sorted[(Binary32.ofNat history.length * 0.95).floorNat]? = some metrics.tickMicros95.toNat ∧
      sorted[(Binary32.ofNat history.length * 0.99).floorNat]? = some metrics.tickMicros99.toNat ∧
      sorted[history.length - 1]? = some metrics.tickMicrosMax.toNat := by
  intro sorted
  obtain ⟨nonneg, -, part, nonnegToo, partToo⟩ := shares_within
  obtain ⟨most, nearlyAll, largest⟩ := published.toNat_eq fits enough
  have nonempty := length_mergeSort_pos enough
  have short := length_mergeSort_fits few
  have length : history.length = sorted.length := (List.length_mergeSort history).symm
  rw [most, nearlyAll, largest, length]
  exact ⟨getElem?_share nonempty short nonneg part,
    getElem?_share nonempty short nonnegToo partToo, getElem?_last nonempty⟩

theorem inOrder :
    metrics.tickMicros95 ≤ metrics.tickMicros99 ∧ metrics.tickMicros99 ≤ metrics.tickMicrosMax := by
  rcases Nat.lt_or_ge history.length minHistory with early | enough
  · obtain ⟨most, nearlyAll, largest⟩ := published.few early
    rw [most, nearlyAll, largest]
    decide
  · obtain ⟨nonneg, le, -, -, part⟩ := shares_within
    obtain ⟨most, nearlyAll, largest⟩ := published.toNat_eq fits enough
    have sorted := List.pairwise_mergeSort' (· ≤ ·) history
    have nonempty := length_mergeSort_pos enough
    have short := length_mergeSort_fits few
    rw [UInt64.le_iff_toNat_le, UInt64.le_iff_toNat_le, most, nearlyAll, largest]
    exact ⟨percentile_le_percentile sorted nonempty short nonneg le (Binary32.le_of_lt part),
      percentile_le_last sorted nonempty _⟩

end Publishes

/-- In every run of ticks whose microseconds fit into a count of eight bytes: the history is made up
of the times of the latest thousand ticks in their order, or of all ticks if there were fewer, and
all of them are counted. The percentiles and the largest time are zero until the tenth tick; from
then on they are entries of the sorted history, at two shares of its length, which are places that
it has, and at its end. So the largest time is one of the history that no other one exceeds, and
the three are in order at any time. -/
theorem percentiles_of_run (durations : List Duration)
    (fits : ∀ duration ∈ durations, Duration.inMicros duration < UInt64.size) :
    let final := new.timed durations
    let history := final.tickHistory
    history <:+ durations.map Duration.inMicros ∧ history.length = min durations.length 1000 ∧
    final.tickCount = UInt64.ofNat durations.length ∧
    (durations.length < 10 →
      final.tickMicros95 = 0 ∧ final.tickMicros99 = 0 ∧ final.tickMicrosMax = 0) ∧
    (10 ≤ durations.length → ∃ sorted : List Nat,
      sorted.Perm history ∧ sorted.Pairwise (· ≤ ·) ∧
      sorted[(Binary32.ofNat history.length * 0.95).floorNat]? = some final.tickMicros95.toNat ∧
      sorted[(Binary32.ofNat history.length * 0.99).floorNat]? = some final.tickMicros99.toNat ∧
      sorted[history.length - 1]? = some final.tickMicrosMax.toNat ∧
      final.tickMicrosMax.toNat ∈ history ∧
      ∀ time ∈ history, time ≤ final.tickMicrosMax.toNat) ∧
    final.tickMicros95 ≤ final.tickMicros99 ∧ final.tickMicros99 ≤ final.tickMicrosMax := by
  intro final history
  have times : durations.map recordedMicros = durations.map Duration.inMicros :=
    List.map_congr_left fun duration listed => Nat.mod_eq_of_lt (fits duration listed)
  obtain ⟨⟨latest, length⟩, counted, published⟩ :
      final.Follows (durations.map Duration.inMicros) := by
    rw [← times]
    exact follows_new.timed durations
  rw [List.length_map] at length counted
  have below : ∀ time ∈ history, time < UInt64.size := by
    intro time listed
    obtain ⟨duration, among, rfl⟩ := List.mem_map.mp (latest.subset listed)
    exact fits duration among
  have few : history.length ≤ maxHistory := length.trans_le (Nat.min_le_right _ _)
  have ten : minHistory = 10 := rfl
  have thousand : maxHistory = 1000 := rfl
  refine ⟨latest, length, counted, fun early => published.few (by omega), fun enough => ?_,
    published.inOrder few below⟩
  have many : minHistory ≤ final.tickHistory.length := by omega
  obtain ⟨most, nearlyAll, largest⟩ := published.entries few below many
  have sorts := List.mergeSort_perm history (· ≤ ·)
  have sorted := List.pairwise_mergeSort' (· ≤ ·) history
  refine ⟨history.mergeSort, sorts, sorted, most, nearlyAll, largest,
    sorts.mem_iff.mp (List.mem_of_getElem? largest), fun time listed => ?_⟩
  rw [(published.toNat_eq below many).2.2]
  exact le_last_of_mem sorted (sorts.mem_iff.mpr listed)

/-- Of a thousand and one times that fall from a thousand microseconds to none, the first is not
kept any more, although it is the largest. -/
theorem percentiles_of_falling_times :
    let durations := (List.range 1001).reverse.map (1000 * ·)
    let final := new.timed durations
    final.tickHistory = (List.range 1000).reverse ∧ final.tickCount = 1001 ∧
      final.tickMicros95 = 950 ∧ final.tickMicros99 = 990 ∧ final.tickMicrosMax = 999 := by
  intro durations
  have micros (time : Nat) : Duration.inMicros (1000 * time) = time :=
    Nat.mul_div_cancel_left time (by decide)
  have times : durations.map Duration.inMicros = 1000 :: (List.range 1000).reverse := by
    have plain : Duration.inMicros ∘ (1000 * ·) = id := funext micros
    rw [List.map_map, plain, List.map_id, List.range_succ, List.reverse_concat]
  have fits : ∀ duration ∈ durations, Duration.inMicros duration < UInt64.size := by
    intro duration listed
    obtain ⟨time, among, rfl⟩ := List.mem_map.mp listed
    rw [micros]
    have few := List.mem_range.mp (List.mem_reverse.mp among)
    exact few.trans (by decide)
  have published := percentiles_of_run durations fits
  -- What follows rests on the result alone, not on the thousand ticks.
  generalize new.timed durations = final at published ⊢
  obtain ⟨latest, length, counted, -, later, -⟩ := published
  have count : durations.length = 1001 := by
    rw [List.length_map, List.length_reverse, List.length_range]
  have kept : final.tickHistory = (List.range 1000).reverse := by
    rw [times] at latest
    rw [count] at length
    rcases List.suffix_cons_iff.mp latest with whole | rest
    · rw [whole, List.length_cons, List.length_reverse, List.length_range] at length
      omega
    · refine rest.eq_of_length ?_
      rw [length, List.length_reverse, List.length_range]
      omega
  obtain ⟨sorted, same, inOrder, most, nearlyAll, largest, -⟩ := later (by omega)
  rw [kept] at same
  have ascending : sorted = List.range 1000 :=
    (same.trans (List.reverse_perm _)).eq_of_pairwise' inOrder List.pairwise_le_range
  have places : (Binary32.ofNat 1000 * 0.95).floorNat = 950 ∧
      (Binary32.ofNat 1000 * 0.99).floorNat = 990 := by
    decide
  rw [kept, List.length_reverse, List.length_range, ascending] at most nearlyAll largest
  rw [places.1, List.getElem?_range (by decide)] at most
  rw [places.2, List.getElem?_range (by decide)] at nearlyAll
  rw [List.getElem?_range (by decide)] at largest
  refine ⟨kept, ?_, ?_, ?_, ?_⟩
  · rw [counted, count]
    rfl
  · exact UInt64.toNat_inj.mp (Option.some.inj most).symm
  · exact UInt64.toNat_inj.mp (Option.some.inj nearlyAll).symm
  · exact UInt64.toNat_inj.mp (Option.some.inj largest).symm

end AvatarRelay.Metrics
