/-
# Moves of the throttling ratio

An update either counts and leaves the ratio, or it makes a move that starts at the ratio and
ends at the next one, which is published at once. So in a run of updates the moves follow upon
one another from zero on, each begins where the one before it ended, and whoever reads the
published ratio reads the end of the last one. What decides about moves is never the idle share
alone: a hundred updates lie between two of them. The end of a tick that was not begun changes
nothing at all.
-/

import AvatarRelay.Proofs.Spacing
import AvatarRelay.Throttle

namespace AvatarRelay

namespace ThrottleMove

def start : ThrottleMove → Binary32
  | struggling start _ | recovering start _ => start

def finish : ThrottleMove → Binary32
  | struggling _ finish | recovering _ finish => finish

end ThrottleMove

namespace Throttle

inductive Call
  /-- An idle share is taken in. -/
  | update (idleShare : Binary32)
  /-- The tick under way ends. -/
  | tickEnd (now : Instant)

def Call.isUpdate : Call → Bool
  | update _ => true
  | tickEnd _ => false

def next (throttle : Throttle) : Call → Throttle
  | .update idleShare => (throttle.update idleShare).1
  | .tickEnd now => throttle.tickEnd now

def after (throttle : Throttle) (calls : List Call) : Throttle :=
  calls.foldl next throttle

def answers (throttle : Throttle) : List Call → List (Option ThrottleMove)
  | [] => []
  | .update idleShare :: rest =>
    (throttle.update idleShare).2 :: (throttle.next (.update idleShare)).answers rest
  | .tickEnd now :: rest => (throttle.next (.tickEnd now)).answers rest

def moves (throttle : Throttle) (calls : List Call) : List ThrottleMove :=
  (throttle.answers calls).filterMap id

/-- A move begins at the ratio as it was, and only once a hundred updates have been counted. -/
theorem of_move? {throttle : Throttle} {move : ThrottleMove}
    (moves : throttle.move? = some move) :
    100 ≤ throttle.ticksSinceMove.toNat ∧ move.start = throttle.ratio := by
  unfold move? at moves
  split at moves
  · cases moves
  next passed =>
  have waited := UInt32.le_iff_toNat_le.mp (UInt32.not_lt.mp passed)
  split at moves
  · cases moves
    exact ⟨waited, rfl⟩
  split at moves
  · cases moves
    exact ⟨waited, rfl⟩
  · cases moves

/-- An update counts, up to the largest count, or it moves the ratio once a hundred updates have
been counted, from where it was, and publishes it. -/
theorem update_cases (throttle : Throttle) (idleShare : Binary32) :
    let result := throttle.update idleShare
    (result.2 = none ∧ result.1.ratio = throttle.ratio ∧
      result.1.published = throttle.published ∧
      result.1.ticksSinceMove.toNat = min (throttle.ticksSinceMove.toNat + 1) 0xffffffff) ∨
    ∃ move, result.2 = some move ∧ 100 ≤ throttle.ticksSinceMove.toNat ∧
      move.start = throttle.ratio ∧ result.1.ratio = move.finish ∧
      result.1.published = move.finish ∧ result.1.ticksSinceMove = 0 := by
  let averaged : Throttle :=
    { throttle with trailing := earlierWeight * throttle.trailing + latestWeight * idleShare }
  cases moves : averaged.move? with
  | none =>
    left
    have result : throttle.update idleShare =
        ({ averaged with ticksSinceMove := countUp averaged.ticksSinceMove }, none) := by
      simp only [update, averaged] at moves ⊢
      rw [moves]
    rw [result]
    exact ⟨rfl, rfl, rfl, toNat_countUp _⟩
  | some move =>
    right
    obtain ⟨waited, start⟩ := of_move? moves
    have result : throttle.update idleShare = (averaged.moveTo move.finish, some move) := by
      simp only [update, averaged] at moves ⊢
      rw [moves]
      cases move <;> rfl
    rw [result]
    exact ⟨move, rfl, waited, start, rfl, rfl, rfl⟩

theorem started_update (throttle : Throttle) (idleShare : Binary32) :
    (throttle.update idleShare).1.started = throttle.started := by
  unfold update
  dsimp only
  split <;> rfl

theorem ratio_update {throttle : Throttle} {idleShare : Binary32}
    (unmoved : (throttle.update idleShare).2 = none) :
    (throttle.update idleShare).1.ratio = throttle.ratio := by
  rcases throttle.update_cases idleShare with ⟨-, ratio, -⟩ | ⟨move, moved, -⟩
  · exact ratio
  · cases unmoved.symm.trans moved

theorem tickEnd_of_idle {throttle : Throttle} (idle : throttle.started = none) (now : Instant) :
    throttle.tickEnd now = throttle := by
  rw [tickEnd, idle]

theorem length_answers (throttle : Throttle) (calls : List Call) :
    (throttle.answers calls).length = calls.countP Call.isUpdate := by
  induction calls generalizing throttle with
  | nil => rfl
  | cons call rest ih =>
    cases call with
    | update idleShare =>
      rw [answers, List.length_cons, ih, List.countP_cons_of_pos rfl]
    | tickEnd now =>
      rw [answers, ih, List.countP_cons_of_neg Bool.false_ne_true]

variable {throttle : Throttle} (idle : throttle.started = none) (calls : List Call)

include idle

theorem started_after : (throttle.after calls).started = none := by
  induction calls generalizing throttle with
  | nil => exact idle
  | cons call rest ih =>
    cases call with
    | update idleShare => exact ih ((throttle.started_update idleShare).trans idle)
    | tickEnd now => exact ih ((congrArg started (tickEnd_of_idle idle now)).trans idle)

/-- A hundred updates without a move lie between two moves. -/
theorem spaced_answers :
    Spaced 100 throttle.ticksSinceMove.toNat ((throttle.answers calls).map Option.isSome) := by
  induction calls generalizing throttle with
  | nil => trivial
  | cons call rest ih =>
    cases call with
    | tickEnd now =>
      rw [answers, next, tickEnd_of_idle idle]
      exact ih idle
    | update idleShare =>
      rw [answers, List.map_cons, next]
      have later := ih ((throttle.started_update idleShare).trans idle)
      rcases throttle.update_cases idleShare with
        ⟨answer, -, -, count⟩ | ⟨move, answer, passed, -, -, -, count⟩
      · rw [answer]
        rw [count] at later
        exact later.mono (Nat.min_le_left _ _)
      · rw [answer]
        rw [count] at later
        exact ⟨passed, later⟩

/-- Every move begins where the one before it ended, the first one at the ratio before the run.
The ratio after the run is the end of the last one, and whoever reads the published ratio reads
the same if this was so before. -/
theorem chained_moves :
    (throttle.moves calls).map ThrottleMove.start =
        (throttle.ratio :: (throttle.moves calls).map ThrottleMove.finish).dropLast ∧
      (throttle.after calls).ratio =
        ((throttle.moves calls).map ThrottleMove.finish).getLastD throttle.ratio ∧
      (throttle.published = throttle.ratio →
        (throttle.after calls).published = (throttle.after calls).ratio) := by
  induction calls generalizing throttle with
  | nil => exact ⟨rfl, rfl, id⟩
  | cons call rest ih =>
    rw [after, List.foldl_cons, ← after]
    cases call with
    | tickEnd now =>
      rw [moves, answers, next, tickEnd_of_idle idle]
      exact ih idle
    | update idleShare =>
      rw [next]
      obtain ⟨starts, finish, read⟩ := ih ((throttle.started_update idleShare).trans idle)
      rcases throttle.update_cases idleShare with
        ⟨answer, ratio, published, -⟩ | ⟨move, answer, -, start, ratio, published, -⟩
      · have unmoved : throttle.moves (.update idleShare :: rest) =
            (throttle.update idleShare).1.moves rest := by
          rw [moves, answers, answer]
          rfl
        rw [unmoved]
        rw [ratio] at starts finish
        rw [published, ratio] at read
        exact ⟨starts, finish, read⟩
      · have moved : throttle.moves (.update idleShare :: rest) =
            move :: (throttle.update idleShare).1.moves rest := by
          rw [moves, answers, answer]
          rfl
        rw [moved, List.map_cons, List.map_cons, List.getLastD_cons, start,
          List.dropLast_cons_cons]
        rw [ratio] at starts finish
        exact ⟨congrArg _ starts, finish, fun _ => read (published.trans ratio.symm)⟩

omit idle in
/-- In every run of updates and of ends of ticks that were not begun, whatever idle shares were
taken in: two moves are at least 101 updates apart, so there is at most one in 101 updates begun;
every move begins where the one before it ended, the first one at zero, and the ratio is the end
of the last one, as every reader of the published ratio has it; a call that answers no move
leaves the ratio as it is. -/
theorem moves_of_run (tickRate : UInt32) (calls : List Call) :
    let answers := (new tickRate).answers calls
    let moves := (new tickRate).moves calls
    let final := (new tickRate).after calls
    answers.length = calls.countP Call.isUpdate ∧
    (∀ first second, first < second → (answers.map Option.isSome)[first]? = some true →
      (answers.map Option.isSome)[second]? = some true → first + 101 ≤ second) ∧
    moves.length ≤ (answers.length + 100) / 101 ∧
    moves.map ThrottleMove.start = (0 :: moves.map ThrottleMove.finish).dropLast ∧
    final.ratio = (moves.map ThrottleMove.finish).getLastD 0 ∧
    final.published = final.ratio ∧
    (∀ idleShare, (final.update idleShare).2 = none →
      (final.update idleShare).1.ratio = final.ratio) ∧
    ∀ now, final.tickEnd now = final := by
  intro answers moves final
  have idle : (new tickRate).started = none := rfl
  have spaced := spaced_answers idle calls
  obtain ⟨starts, finish, read⟩ := chained_moves idle calls
  refine ⟨length_answers _ calls, fun first second less one two => spaced.apart less one two, ?_,
    starts, finish, read rfl, fun _ => ratio_update,
    tickEnd_of_idle (started_after idle calls)⟩
  have count : moves.length = (answers.map Option.isSome).count true := by
    rw [List.count_eq_countP, List.countP_map]
    refine List.length_filterMap_eq_countP.trans (List.countP_congr fun answer _ => ?_)
    simp
  have bound := spaced.count_le
  rw [List.length_map] at bound
  rw [Nat.le_div_iff_mul_le (by decide), Nat.mul_comm, count]
  exact bound

/-- The bound is reached: the first of 102 updates can make a move, and so can the last. -/
example : ((new 60).moves (List.replicate 102 (.update (-100)))).length = 2 := by
  decide +kernel

end Throttle

end AvatarRelay
