/-
# The ratio stays between zero and one

The trailing share of idle time decides when the throttling ratio moves, but not where to: a
struggling relay takes the ratio halfway to one, a recovering one takes it down by a step, or to
zero. Neither move leaves the interval from zero to one, whatever rounding makes of it, so no
idle share that is taken in, a NaN or an infinity among them, can take the ratio out of it. And
each move goes the way that it is reported with.
-/

import AvatarRelay.Proofs.Sums
import AvatarRelay.Proofs.Throttling

namespace AvatarRelay

namespace ThrottleMove

/-- The move goes the way that it says, and does not leave the interval from zero to one. -/
def Apt : ThrottleMove → Prop
  | struggling start finish => start ≤ finish ∧ finish ≤ 1
  | recovering start finish => 0 ≤ finish ∧ finish ≤ start ∧ 0 < start

end ThrottleMove

namespace Throttle

variable {throttle : Throttle}

def Within (throttle : Throttle) : Prop :=
  0 ≤ throttle.ratio ∧ throttle.ratio ≤ 1

theorem within_new (tickRate : UInt32) : (new tickRate).Within := by
  have unit : (0 : Binary32) ≤ 0 ∧ (0 : Binary32) ≤ 1 := by decide
  exact unit

theorem recoveryStep_within : 0 ≤ recoveryStep ∧ recoveryStep.isFinite = true := by
  decide

/-- A move from a ratio between zero and one goes the way that it says, and ends between them
as well. -/
theorem Within.of_move? (within : throttle.Within) {move : ThrottleMove}
    (moves : throttle.move? = some move) :
    move.Apt ∧ 0 ≤ move.finish ∧ move.finish ≤ 1 := by
  obtain ⟨nonneg, share⟩ := within
  unfold move? at moves
  split at moves
  · cases moves
  split at moves
  · cases moves
    obtain ⟨rises, low⟩ := Binary32.halfway_within nonneg share
    exact ⟨⟨rises, low⟩, Binary32.le_trans nonneg rises, low⟩
  split at moves
  · next recovers =>
    cases moves
    have positive := of_decide_eq_true ((Bool.and_eq_true _ _).mp recovers).2
    have finite := Binary32.isFinite_of_le nonneg share (by decide)
    obtain ⟨high, falls⟩ := Binary32.max_zero_within
      (Binary32.sub_le_left nonneg finite recoveryStep_within.1 recoveryStep_within.2) nonneg
    exact ⟨⟨high, falls, positive⟩, high, Binary32.le_trans falls share⟩
  · cases moves

/-- An update makes the move that its new trailing average calls for. -/
theorem answer_update (throttle : Throttle) (idleShare : Binary32) :
    (throttle.update idleShare).2 =
      { throttle with
        trailing := earlierWeight * throttle.trailing + latestWeight * idleShare }.move? := by
  unfold update
  dsimp only
  split <;> next moves => exact moves.symm

namespace Within

variable (within : throttle.Within)

include within

theorem of_update {idleShare : Binary32} {move : ThrottleMove}
    (moved : (throttle.update idleShare).2 = some move) :
    move.Apt ∧ 0 ≤ move.finish ∧ move.finish ≤ 1 := by
  rw [answer_update] at moved
  exact of_move? (by exact within) moved

/-- An update keeps the ratio between zero and one, whatever it takes in. -/
theorem update (idleShare : Binary32) : (throttle.update idleShare).1.Within := by
  rcases throttle.update_cases idleShare with ⟨-, ratio, -⟩ | ⟨move, moved, -, -, ratio, -⟩
  · rw [Within, ratio]
    exact within
  · rw [Within, ratio]
    exact (within.of_update moved).2

theorem tickEnd (now : Instant) : (throttle.tickEnd now).Within := by
  unfold Throttle.tickEnd
  split
  · exact within
  · exact update (by exact within) _

/-- In a run of calls every ratio is between zero and one, and every move goes the way that it
says. -/
theorem after_and_moves (calls : List Call) :
    (throttle.after calls).Within ∧ ∀ move ∈ throttle.moves calls, move.Apt := by
  induction calls generalizing throttle with
  | nil => exact ⟨within, fun _ listed => absurd listed List.not_mem_nil⟩
  | cons call rest ih =>
    cases call with
    | tickEnd now => exact ih (within.tickEnd now)
    | update idleShare =>
      obtain ⟨final, apt⟩ := ih (within.update idleShare)
      refine ⟨final, fun move listed => ?_⟩
      obtain ⟨answer, among, moved⟩ := List.mem_filterMap.mp listed
      rcases List.mem_cons.mp among with now | later
      · exact (within.of_update (now.symm.trans moved)).1
      · exact apt move (List.mem_filterMap.mpr ⟨answer, later, moved⟩)

end Within

/-- In every run of updates, with whatever idle shares, and of ends of ticks that were not begun:
the ratio is a number between zero and one, a struggling relay never lowers it, and a recovering
one never raises it and recovers from above zero alone. -/
theorem ratio_of_run (tickRate : UInt32) (calls : List Call) :
    let final := (new tickRate).after calls
    let moves := (new tickRate).moves calls
    final.ratio.isNaN = false ∧ 0 ≤ final.ratio ∧ final.ratio ≤ 1 ∧
    (∀ start finish, .struggling start finish ∈ moves → start ≤ finish ∧ finish ≤ 1) ∧
    ∀ start finish, .recovering start finish ∈ moves →
      0 ≤ finish ∧ finish ≤ start ∧ 0 < start := by
  intro final moves
  obtain ⟨⟨nonneg, share⟩, apt⟩ := (within_new tickRate).after_and_moves calls
  exact ⟨Binary32.isNaN_of_nonneg nonneg, nonneg, share, fun _ _ => apt _, fun _ _ => apt _⟩

/-- Even a share far below zero moves the ratio by no more than half of its way to one. -/
example : (new 60).moves [.update (-100)] = [.struggling 0 0.5] := by
  decide

end Throttle

end AvatarRelay
