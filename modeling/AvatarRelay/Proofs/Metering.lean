/-
# Windows of a meter

The calls on a meter fall into spans that follow one another: a span begins with the call that
opens a window, and the first call that comes the window's length later closes the window and
begins the next span. The meter holds the bytes of the last span, and its rate is that of the
span before. So every byte is counted in one window, also those of a call that closes one: they
belong to the new window. Calls need not come in the order of time for that; one that comes
before its window was opened is counted in it like any other. The count has sixty-four bits, and
a window in which more is recorded is measured by what remains modulo their number.
-/

import Mathlib.Data.List.Chain
import Mathlib.Data.List.Induction
import AvatarRelay.RateMeter

namespace AvatarRelay.RateMeter

-- The zero of a sum is that of the numerals, whatever other instances are in scope.
attribute [local instance (2000)] Zero.ofOfNat0

inductive Call
  /-- Bytes are recorded. -/
  | record (bytes : Nat) (now : Instant)
  /-- The rate is read. -/
  | read (now : Instant)

namespace Call

def now : Call → Instant
  | record _ now | read now => now

def bytes : Call → Nat
  | record bytes _ => bytes
  | read _ => 0

end Call

def total (calls : List Call) : Nat :=
  (calls.map Call.bytes).sum

def next (meter : RateMeter) : Call → RateMeter
  | .record bytes now => meter.record bytes now
  | .read now => meter.roll now

def after (meter : RateMeter) (calls : List Call) : RateMeter :=
  calls.foldl next meter

/-- Calls that fall into one window: the one that opens it and those that follow. -/
structure Span where
  opening : Call
  later : List Call

namespace Span

def calls (span : Span) : List Call :=
  span.opening :: span.later

def opened (span : Span) : Instant :=
  span.opening.now

def bytes (span : Span) : Nat :=
  total span.calls

theorem bytes_eq (span : Span) : span.bytes = span.opening.bytes + total span.later :=
  List.sum_cons

end Span

/-- Calls are divided into spans by windows of a given length: in each span no call but the first
comes that long after its opening, and the first call that does so begins the next span. -/
structure Divides (length : Duration) (spans : List Span) (calls : List Call) : Prop where
  all : spans.flatMap Span.calls = calls
  within : ∀ span ∈ spans, ∀ call ∈ span.later, call.now < span.opened + length
  closed : spans.IsChain fun span next => span.opened + length ≤ next.opened

/-- The meter holds the bytes of the last of some spans, and the rate of the one before. -/
structure Shows (meter : RateMeter) (spans : List Span) : Prop where
  opened : meter.opened = spans.getLast?.map Span.opened
  bytes : meter.bytes = UInt64.ofNat ((spans.getLast?.map Span.bytes).getD 0)
  unmeasured : spans.length ≤ 1 → meter.lastKbps = 0
  measured : ∀ earlier closed next, spans = earlier ++ [closed, next] →
    meter.lastKbps =
      kbpsOver (UInt64.ofNat closed.bytes) (Duration.between closed.opened next.opened)

variable {meter : RateMeter} {start : Instant} {length : Duration}

theorem le_between_iff {start finish length : Nat} (positive : 0 < length) :
    length ≤ Duration.between start finish ↔ start + length ≤ finish := by
  unfold Duration.between
  omega

/-- The first call opens a window. -/
theorem next_of_unopened (unopened : meter.opened = none) (call : Call) :
    meter.next call =
      { meter with opened := some call.now, bytes := meter.bytes + UInt64.ofNat call.bytes } := by
  cases call with
  | record bytes now => simp only [next, record, roll, unopened, Call.now, Call.bytes]
  | read now =>
    have kept : meter.bytes + UInt64.ofNat 0 = meter.bytes := UInt64.add_zero _
    simp only [next, roll, unopened, Call.now, Call.bytes, kept]

section Opened

variable (opened : meter.opened = some start) (positive : 0 < meter.window) {call : Call}

include opened positive

/-- A call that comes less than a window's length after the opening is counted in the window,
even if it comes before the opening. -/
theorem next_of_soon (soon : call.now < start + meter.window) :
    meter.next call = { meter with bytes := meter.bytes + UInt64.ofNat call.bytes } := by
  have rolled : meter.roll call.now = meter := by
    have short := mt (le_between_iff positive).mp (Nat.not_le.mpr soon)
    simp only [roll, opened, if_neg short]
  cases call with
  | record bytes now =>
    rw [next, record, show meter.roll now = meter from rolled]
    rfl
  | read now =>
    have kept : meter.bytes + UInt64.ofNat 0 = meter.bytes := UInt64.add_zero _
    rw [Call.bytes, kept]
    exact rolled

/-- A call that comes a window's length after the opening closes the window, and its bytes are
counted in the next one. -/
theorem next_of_due (due : start + meter.window ≤ call.now) :
    meter.next call =
      { meter with
        opened := some call.now
        bytes := UInt64.ofNat call.bytes
        lastKbps := kbpsOver meter.bytes (Duration.between start call.now) } := by
  have long := (le_between_iff positive).mpr due
  cases call with
  | record bytes now =>
    simp only [next, record, roll, opened, Call.now, Call.bytes] at long ⊢
    rw [if_pos long, UInt64.zero_add]
  | read now =>
    simp only [next, roll, opened, Call.now, Call.bytes] at long ⊢
    rw [if_pos long]
    rfl

end Opened

@[simp]
theorem window_next (meter : RateMeter) (call : Call) :
    (meter.next call).window = meter.window := by
  have rolled (now : Instant) : (meter.roll now).window = meter.window := by
    unfold roll
    split
    · rfl
    · dsimp only
      split <;> rfl
  cases call with
  | record bytes now => exact rolled now
  | read now => exact rolled now

theorem after_append (meter : RateMeter) (earlier later : List Call) :
    meter.after (earlier ++ later) = (meter.after earlier).after later :=
  List.foldl_append

@[simp]
theorem window_after (meter : RateMeter) (calls : List Call) :
    (meter.after calls).window = meter.window := by
  induction calls generalizing meter with
  | nil => rfl
  | cons call rest ih => exact (ih _).trans (meter.window_next call)

/-- Calls within a window are counted in it. -/
theorem after_of_soon (opened : meter.opened = some start) (positive : 0 < meter.window)
    {calls : List Call} (soon : ∀ call ∈ calls, call.now < start + meter.window) :
    meter.after calls = { meter with bytes := meter.bytes + UInt64.ofNat (total calls) } := by
  induction calls generalizing meter with
  | nil =>
    have kept : meter.bytes + UInt64.ofNat (total []) = meter.bytes := UInt64.add_zero _
    rw [kept]
    rfl
  | cons call rest ih =>
    rw [List.forall_mem_cons] at soon
    let counted : RateMeter := { meter with bytes := meter.bytes + UInt64.ofNat call.bytes }
    have later : counted.after rest =
        { counted with bytes := counted.bytes + UInt64.ofNat (total rest) } :=
      ih opened positive soon.2
    rw [after, List.foldl_cons, next_of_soon opened positive soon.1]
    refine later.trans ?_
    rw [total, total, List.map_cons, List.sum_cons, UInt64.ofNat_add, ← UInt64.add_assoc]

namespace Divides

variable {spans earlier : List Span} {span : Span} {before calls : List Call}

theorem of_concat (divides : Divides length (earlier ++ [span]) calls) :
    calls = earlier.flatMap Span.calls ++ span.calls ∧
      Divides length earlier (earlier.flatMap Span.calls) ∧
      (∀ last, earlier.getLast? = some last → last.opened + length ≤ span.opened) ∧
      ∀ call ∈ span.later, call.now < span.opened + length := by
  obtain ⟨all, within, closed⟩ := divides
  rw [List.flatMap_append, List.flatMap_singleton] at all
  obtain ⟨front, -, joint⟩ := List.isChain_append.mp closed
  refine ⟨all.symm, ⟨rfl, fun other listed => within other (List.mem_append_left _ listed),
    front⟩, fun last final => joint last final span rfl, within span ?_⟩
  exact List.mem_append_right _ (List.mem_singleton_self span)

end Divides

/-- A call that is due begins a span: its bytes are the first of a new window, and the rate is that
of the last span before, if there is one. -/
theorem Shows.next_of_due {spans : List Span} (shown : meter.Shows spans)
    (positive : 0 < meter.window) {call : Call}
    (due : ∀ last, spans.getLast? = some last → last.opened + meter.window ≤ call.now) :
    ∃ rate, meter.next call = ⟨meter.window, some call.now, UInt64.ofNat call.bytes, rate⟩ ∧
      (spans = [] → rate = 0) ∧
      ∀ last, spans.getLast? = some last →
        rate = kbpsOver (UInt64.ofNat last.bytes) (Duration.between last.opened call.now) := by
  rcases List.eq_nil_or_concat' spans with rfl | ⟨earlier, last, rfl⟩
  · refine ⟨0, ?_, fun _ => rfl, fun last final => by cases final⟩
    rw [next_of_unopened shown.opened, show meter.bytes = 0 from shown.bytes, UInt64.zero_add,
      shown.unmeasured (Nat.zero_le 1)]
  · rw [List.getLast?_concat] at due ⊢
    have opened : meter.opened = some last.opened :=
      shown.opened.trans (congrArg _ List.getLast?_concat)
    have counted : meter.bytes = UInt64.ofNat last.bytes :=
      shown.bytes.trans (congrArg (fun last => UInt64.ofNat ((last.map Span.bytes).getD 0))
        List.getLast?_concat)
    refine ⟨kbpsOver (UInt64.ofNat last.bytes) (Duration.between last.opened call.now), ?_,
      fun none => absurd none (by simp), fun other same => by cases same; rfl⟩
    rw [RateMeter.next_of_due opened positive (due last rfl), counted]

theorem Divides.shows {spans : List Span} {calls : List Call} (positive : 0 < length)
    (divides : Divides length spans calls) : Shows ((new length).after calls) spans := by
  induction spans using List.reverseRecOn generalizing calls with
  | nil =>
    rw [← divides.all]
    exact ⟨rfl, rfl, fun _ => rfl, fun _ _ _ shape => absurd shape.symm (by simp)⟩
  | append_singleton earlier span ih =>
    obtain ⟨all, front, joint, within⟩ := divides.of_concat
    have shown := ih front
    generalize metered : (new length).after (earlier.flatMap Span.calls) = meter at shown
    obtain rfl : meter.window = length := by
      rw [← metered, window_after]
      rfl
    obtain ⟨rate, opening, unmeasured, measured⟩ := shown.next_of_due positive joint
    let begun : RateMeter :=
      ⟨meter.window, some span.opened, UInt64.ofNat span.opening.bytes, rate⟩
    have opened : begun.opened = some span.opened := rfl
    have later : begun.after span.later = { begun with bytes := UInt64.ofNat span.bytes } := by
      rw [after_of_soon opened positive within, span.bytes_eq, UInt64.ofNat_add]
    have result : (new meter.window).after calls =
        { begun with bytes := UInt64.ofNat span.bytes } := by
      rw [all, after_append, metered, Span.calls, after, List.foldl_cons, opening]
      exact later
    rw [result]
    refine ⟨?_, ?_, fun short => ?_, fun others closed next shape => ?_⟩
    · rw [List.getLast?_concat]
      rfl
    · rw [List.getLast?_concat]
      rfl
    · refine unmeasured (List.length_eq_zero_iff.mp ?_)
      rw [List.length_append, List.length_singleton] at short
      omega
    · rw [List.append_cons others] at shape
      obtain ⟨rfl, same⟩ := List.append_inj' shape rfl
      cases same
      exact measured closed List.getLast?_concat

end AvatarRelay.RateMeter
