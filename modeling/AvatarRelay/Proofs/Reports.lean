/-
# Reports

The counters of a tick are entered twice, into the window of the next report and into the
metrics. A window is emptied when its report is published and at no other time, so the reports
and the window divide the ticks among them, one after the other; the metrics are never emptied.
-/

import AvatarRelay.Proofs.Gains
import AvatarRelay.Proofs.Receipts

namespace AvatarRelay

-- The zero of a sum is that of the numerals, whatever other instances are in scope.
attribute [local instance (2000)] Zero.ofOfNat0

def Metrics.counters (metrics : Metrics) : Counters where
  listeners := metrics.listeners
  identityPackets := metrics.identityPackets
  avatarsSent := metrics.avatarsSent
  heldBack := metrics.heldBack
  skipped := metrics.skipped
  outOfOrder := metrics.outOfOrder
  contended := metrics.contended
  mutedByBubble := metrics.mutedByBubble
  bytesSent := metrics.bytesSent
  sendFailures := metrics.sendFailures

/-- Running totals with one more pass: all add up but the listeners, which are those of the
pass. -/
def Counters.followedBy (totals counters : Counters) : Counters :=
  { totals + counters with listeners := counters.listeners }

structure Ledger where
  window : Window
  latestReport : Option Report
  /-- The latest report in the metrics. -/
  reportText : String
  /-- The counters of passes in the metrics. -/
  totals : Counters
  ticks : Nat

namespace Ledger

def enter (ledger : Ledger) (counters : Counters) : Ledger :=
  { ledger with
    window := ledger.window.record counters
    totals := ledger.totals.followedBy counters }

def publish (ledger : Ledger) (report : Report) : Ledger :=
  { ledger with
    window := { ledger.window with passes := 0, totals := Counters.zero }
    latestReport := some report
    reportText := report.toJson }

def close (ledger : Ledger) : Ledger :=
  { ledger with ticks := ledger.ticks + 1 }

end Ledger

namespace Relay

variable (relay : Relay)

def ledger : Ledger :=
  ⟨relay.window, relay.latestReport, relay.metrics.latestReport, relay.metrics.counters,
    relay.tickCount⟩

def countersOf : Operation → List Counters
  | .tick order busy began ended => [(relay.tick order busy began ended).1]
  | .connect .. | .receive .. | .disconnect .. | .rewire .. => []

/-- The report that an operation publishes; only a tick does, and only if its window is
complete. -/
def reportsOf : Operation → List Report
  | .tick order busy began ended =>
    if (relay.recorded order busy began ended).window.isComplete then
      (relay.tick order busy began ended).2.latestReport.toList
    else []
  | .connect .. | .receive .. | .disconnect .. | .rewire .. => []

def countersIn (relay : Relay) : List Operation → List Counters
  | [] => []
  | operation :: rest => relay.countersOf operation ++ countersIn (relay.apply operation) rest

def reportsIn (relay : Relay) : List Operation → List Report
  | [] => []
  | operation :: rest => relay.reportsOf operation ++ reportsIn (relay.apply operation) rest

theorem ledger_applyEvent (order : VisitOrder) (event : PeerEvent) :
    (relay.applyEvent order event).ledger = relay.ledger := by
  unfold applyEvent
  split
  · rfl
  split
  · rfl
  · unfold announce
    dsimp only
    split <;> rfl

theorem ledger_processEvents (order : VisitOrder) :
    (relay.processEvents order).ledger = relay.ledger := by
  have kept (events : List PeerEvent) (relay : Relay) :
      (events.foldl (applyEvent order) relay).ledger = relay.ledger := by
    induction events generalizing relay with
    | nil => rfl
    | cons event rest ih => exact (ih _).trans (relay.ledger_applyEvent order event)
  exact kept _ _

theorem ledger_recordTick (counters : Counters) (began ended : Instant) :
    (relay.recordTick counters began ended).ledger = relay.ledger.enter counters := by
  unfold recordTick Metrics.setThrottle Metrics.recordTickTime
  dsimp only
  split <;> rfl

/-- A window that is complete is reported and the next one begins; any other stays open. -/
theorem ledger_reportWindow (order : VisitOrder) (busy : SessionKey → Bool) (now : Instant) :
    (relay.window.isComplete = false ∧ (relay.reportWindow order busy now).ledger = relay.ledger) ∨
    relay.window.isComplete = true ∧ ∃ report : Report,
      report.passes = relay.window.passes ∧ report.totals = relay.window.totals ∧
        (relay.reportWindow order busy now).ledger = relay.ledger.publish report := by
  rw [reportWindow]
  cases complete : relay.window.isComplete with
  | false => exact Or.inl ⟨rfl, rfl⟩
  | true => exact Or.inr ⟨rfl, _, rfl, rfl, rfl⟩

section Tick

variable (order : VisitOrder) (busy : SessionKey → Bool) (began ended : Instant)

theorem ledger_recorded :
    (relay.recorded order busy began ended).ledger =
      relay.ledger.enter (relay.tick order busy began ended).1 := by
  let passed := (relay.beforePass order busy began).fanOut order busy began
  have before : passed.2.ledger = relay.ledger := (relay.timed began).ledger_processEvents order
  calc (relay.recorded order busy began ended).ledger
    _ = passed.2.ledger.enter passed.1 := passed.2.ledger_recordTick passed.1 began ended
    _ = relay.ledger.enter passed.1 := congrArg (·.enter passed.1) before

/-- What a tick does to the ledger: it enters its counters, and then publishes a report if the
window is complete. -/
theorem ledger_tick :
    let counters := (relay.tick order busy began ended).1
    let window := relay.window.record counters
    let after := (relay.tick order busy began ended).2.ledger
    (window.isComplete = false ∧ relay.reportsOf (.tick order busy began ended) = [] ∧
      after = (relay.ledger.enter counters).close) ∨
    window.isComplete = true ∧ ∃ report : Report,
      report.passes = window.passes ∧ report.totals = window.totals ∧
        relay.reportsOf (.tick order busy began ended) = [report] ∧
        after = ((relay.ledger.enter counters).publish report).close := by
  intro counters window after
  have entered : (relay.recorded order busy began ended).ledger = relay.ledger.enter counters :=
    relay.ledger_recorded order busy began ended
  have recorded : (relay.recorded order busy began ended).window = window :=
    congrArg Ledger.window entered
  have closed : after =
      ((relay.recorded order busy began ended).reportWindow order busy ended).ledger.close := rfl
  have published : (relay.tick order busy began ended).2.latestReport = after.latestReport := rfl
  obtain ⟨incomplete, same⟩ | ⟨complete, report, passes, totals, reported⟩ :=
    (relay.recorded order busy began ended).ledger_reportWindow order busy ended
  · rw [recorded] at incomplete
    refine Or.inl ⟨incomplete, ?_, ?_⟩
    · rw [reportsOf, recorded, incomplete]
      rfl
    · rw [closed, same, entered]
  · rw [recorded] at complete passes totals
    refine Or.inr ⟨complete, report, passes, totals, ?_, ?_⟩
    · rw [reportsOf, recorded, complete, if_pos rfl, published, closed, reported]
      rfl
    · rw [closed, reported, entered]

end Tick

/-- Whatever is not a tick leaves the ledger alone. -/
theorem ledger_apply (operation : Operation) (idle : relay.countersOf operation = []) :
    (relay.apply operation).ledger = relay.ledger ∧ relay.reportsOf operation = [] := by
  cases operation with
  | connect id role =>
    refine ⟨?_, rfl⟩
    simp only [apply, connect]
    cases relay.directory.find? id <;> rfl
  | receive sender bytes now =>
    have received := congrArg ledger (relay.receive_spec sender bytes now).2
    exact ⟨received.trans rfl, rfl⟩
  | disconnect key => exact ⟨rfl, rfl⟩
  | rewire transport => exact ⟨rfl, rfl⟩
  | tick order busy began ended => cases idle

end Relay

/-- A ledger agrees with the counters of all ticks and with all reports so far: the reports and
the window divide the ticks among them, each report is on a window of the given length, and the
metrics add up all. -/
structure Ledger.Reckons (length : Nat) (counters : List Counters) (reports : List Report)
    (ledger : Ledger) : Prop where
  window : ledger.window.passesPerWindow.toNat = length
  within : ledger.window.passes.toNat ≤ length
  divided : ledger.window.passes.toNat + length * reports.length = counters.length
  remaining : ledger.window.totals = Counters.sum (counters.drop (length * reports.length))
  reported : ∀ index report, reports[index]? = some report → report.passes.toNat = length ∧
    report.totals = Counters.sum ((counters.drop (length * index)).take length)
  conserved : Counters.sum (reports.map Report.totals) + ledger.window.totals =
    Counters.sum counters
  latest : ledger.latestReport = reports.getLast?
  text : ledger.reportText = (reports.getLast?.map Report.toJson).getD Metrics.new.latestReport
  totals : ledger.totals = { Counters.sum counters with
    listeners := (counters.getLast?.map Counters.listeners).getD 0 }

namespace Ledger.Reckons

variable {length : Nat} {counters : List Counters} {reports : List Report} {ledger : Ledger}
  (reckons : ledger.Reckons length counters reports)

include reckons

theorem enter (room : ledger.window.passes.toNat < length) (next : Counters) :
    (ledger.enter next).Reckons length (counters ++ [next]) reports := by
  have counted : (ledger.window.passes + 1).toNat = ledger.window.passes.toNat + 1 := by
    have bound := ledger.window.passesPerWindow.toNat_lt
    rw [reckons.window] at bound
    rw [UInt32.toNat_add, UInt32.toNat_one, Nat.mod_eq_of_lt (by omega)]
  have divided := reckons.divided
  constructor
  case window => exact reckons.window
  case within => exact counted.symm ▸ room
  case divided =>
    rw [List.length_append, List.length_singleton, ← divided]
    exact (congrArg (· + _) counted).trans (Nat.add_right_comm _ _ _)
  case remaining =>
    rw [List.drop_append_of_le_length (by omega), Counters.sum_append, Counters.sum_singleton,
      ← reckons.remaining]
    rfl
  case reported =>
    intro index report listed
    have before : length * index + length ≤ length * reports.length := by
      rw [← Nat.mul_succ]
      exact Nat.mul_le_mul_left length (List.getElem?_eq_some_iff.mp listed).1
    rw [List.drop_append_of_le_length (by omega),
      List.take_append_of_le_length (by rw [List.length_drop]; omega)]
    exact reckons.reported index report listed
  case conserved =>
    rw [Counters.sum_append, Counters.sum_singleton, ← reckons.conserved, Counters.add_assoc]
    rfl
  case latest => exact reckons.latest
  case text => exact reckons.text
  case totals =>
    rw [Ledger.enter, reckons.totals, List.getLast?_append, List.getLast?_singleton,
      Counters.sum_append, Counters.sum_singleton]
    rfl

theorem room_of_incomplete (incomplete : ledger.window.isComplete = false) :
    ledger.window.passes.toNat < length := by
  have short := of_decide_eq_false incomplete
  rw [UInt32.le_iff_toNat_le, reckons.window] at short
  exact Nat.lt_of_not_le short

theorem full_of_complete (complete : ledger.window.isComplete = true) :
    ledger.window.passes.toNat = length := by
  have reached := of_decide_eq_true complete
  rw [UInt32.le_iff_toNat_le, reckons.window] at reached
  exact Nat.le_antisymm reckons.within reached

theorem publish (full : ledger.window.passes.toNat = length) {report : Report}
    (passes : report.passes = ledger.window.passes)
    (totals : report.totals = ledger.window.totals) :
    (ledger.publish report).Reckons length counters (reports ++ [report]) := by
  have divided : length * (reports ++ [report]).length = counters.length := by
    rw [← reckons.divided, full, List.length_append, List.length_singleton, Nat.mul_succ,
      Nat.add_comm]
  constructor
  case window => exact reckons.window
  case within => exact Nat.zero_le _
  case divided => exact (Nat.zero_add _).trans divided
  case remaining => rw [divided, List.drop_length]; rfl
  case reported =>
    intro index listed there
    rw [List.getElem?_append] at there
    split at there
    · exact reckons.reported index listed there
    · next later =>
      have last : index = reports.length := by
        have bound := (List.getElem?_eq_some_iff.mp there).1
        rw [List.length_singleton] at bound
        omega
      have rest : (counters.drop (length * reports.length)).length = length := by
        rw [List.length_drop, ← reckons.divided, full, Nat.add_sub_cancel]
      subst last
      rw [Nat.sub_self] at there
      cases Option.some.inj there
      rw [passes, totals, List.take_of_length_le (Nat.le_of_eq rest)]
      exact ⟨full, reckons.remaining⟩
  case conserved =>
    rw [List.map_append, List.map_singleton, Counters.sum_append, Counters.sum_singleton, totals,
      ← reckons.conserved]
    exact Counters.add_zero _
  case latest => rw [List.getLast?_append, List.getLast?_singleton]; rfl
  case text => rw [List.getLast?_append, List.getLast?_singleton]; rfl
  case totals => exact reckons.totals

end Ledger.Reckons

/-- Between operations the window has room for one more pass at least, and every tick is
counted. -/
structure Ledger.Settled (length : Nat) (counters : List Counters) (reports : List Report)
    (ledger : Ledger) : Prop extends ledger.Reckons length counters reports where
  room : ledger.window.passes.toNat < length
  ticks : ledger.ticks = counters.length

namespace Relay

theorem settled_opened (config : Config) (fanout : Fanout) :
    (opened config fanout).ledger.Settled (max config.tickRate.toNat 1) [] [] := by
  have window : (max config.tickRate 1).toNat = max config.tickRate.toNat 1 :=
    UInt32.toNat_max _ _
  constructor
  case room => exact Nat.le_max_right _ _
  case ticks => rfl
  case toReckons =>
    constructor
    case window => exact window
    case within => exact Nat.zero_le _
    case reported => intro index report listed; cases listed
    all_goals rfl

section Step

variable {relay : Relay} {length : Nat} {counters : List Counters} {reports : List Report}
  (settled : relay.ledger.Settled length counters reports)

include settled

theorem settled_tick (order : VisitOrder) (busy : SessionKey → Bool) (began ended : Instant) :
    (relay.tick order busy began ended).2.ledger.Settled length
      (counters ++ [(relay.tick order busy began ended).1])
      (reports ++ relay.reportsOf (.tick order busy began ended)) := by
  have positive : 0 < length := Nat.zero_lt_of_lt settled.room
  have entered := settled.enter settled.room (relay.tick order busy began ended).1
  have ticks : relay.tickCount + 1 =
      (counters ++ [(relay.tick order busy began ended).1]).length := by
    rw [List.length_append, List.length_singleton, ← settled.ticks]
    rfl
  obtain ⟨incomplete, silent, after⟩ | ⟨complete, report, passes, totals, reported, after⟩ :=
    relay.ledger_tick order busy began ended
  · rw [silent, List.append_nil, after]
    exact ⟨{ entered with }, entered.room_of_incomplete incomplete, ticks⟩
  · have published := entered.publish (entered.full_of_complete complete) passes totals
    rw [reported, after]
    exact ⟨{ published with }, positive, ticks⟩

theorem settled_apply (operation : Operation) :
    (relay.apply operation).ledger.Settled length (counters ++ relay.countersOf operation)
      (reports ++ relay.reportsOf operation) := by
  have idle (none : relay.countersOf operation = []) :
      (relay.apply operation).ledger.Settled length (counters ++ relay.countersOf operation)
        (reports ++ relay.reportsOf operation) := by
    obtain ⟨same, silent⟩ := relay.ledger_apply operation none
    rw [same, none, silent, List.append_nil, List.append_nil]
    exact settled
  cases operation with
  | tick order busy began ended => exact settled_tick settled order busy began ended
  | connect id role => exact idle rfl
  | receive sender bytes now => exact idle rfl
  | disconnect key => exact idle rfl
  | rewire transport => exact idle rfl

theorem settled_run (operations : List Operation) :
    (relay.run operations).ledger.Settled length (counters ++ relay.countersIn operations)
      (reports ++ relay.reportsIn operations) := by
  induction operations generalizing relay counters reports with
  | nil =>
    rw [countersIn, reportsIn, List.append_nil, List.append_nil]
    exact settled
  | cons operation rest ih =>
    rw [countersIn, reportsIn, ← List.append_assoc, ← List.append_assoc]
    exact ih (settled_apply settled operation)

end Step

/-- No tick is lost and none is counted twice. In any run from a relay that is new, a report has
been published for each window of as many ticks as there are in a second, which has their number
and the sums of their counters in every field; the relay and its metrics have the latest of the
reports, if there is any. All reports together with the window that is open come to the counters
of all ticks, and so do the metrics, which have the listeners of the last tick alone. -/
theorem reports_of_run (config : Config) (fanout : Fanout) (operations : List Operation) :
    let start := opened config fanout
    let relay := start.run operations
    let counters := start.countersIn operations
    let reports := start.reportsIn operations
    let length := max config.tickRate.toNat 1
    let windows := counters.length / length
    relay.tickCount = counters.length ∧
    reports.length = windows ∧
    (∀ index report, reports[index]? = some report → report.passes.toNat = length ∧
      let window := (counters.drop (length * index)).take length
      report.totals = Counters.sum window ∧
        report.totals.listeners = (window.map Counters.listeners).sum) ∧
    relay.latestReport = reports.getLast? ∧
    relay.metrics.latestReport =
      (relay.latestReport.map Report.toJson).getD Metrics.new.latestReport ∧
    (relay.latestReport.isSome = true ↔ 1 ≤ windows) ∧
    (∀ report, relay.latestReport = some report → report.passes.toNat = length ∧
      report.totals = Counters.sum ((counters.drop (length * (windows - 1))).take length)) ∧
    Counters.sum (reports.map Report.totals) + relay.window.totals = Counters.sum counters ∧
    relay.metrics.counters = { Counters.sum counters with
      listeners := (counters.getLast?.map Counters.listeners).getD 0 } := by
  intro start relay counters reports length windows
  have settled : relay.ledger.Settled length counters reports :=
    settled_run (settled_opened config fanout) operations
  have latest : relay.latestReport = reports.getLast? := settled.latest
  have complete : reports.length = windows := by
    have positive : 0 < length := Nat.zero_lt_of_lt settled.room
    change reports.length = counters.length / length
    rw [← settled.divided, Nat.add_mul_div_left _ _ positive, Nat.div_eq_of_lt settled.room,
      Nat.zero_add]
  refine ⟨settled.ticks, complete, fun index report listed => ?_, latest, ?_, ?_, ?_,
    settled.conserved, settled.totals⟩
  · obtain ⟨passes, totals⟩ := settled.reported index report listed
    refine ⟨passes, totals, ?_⟩
    rw [totals, Counters.sum_eq]
  · rw [latest]
    exact settled.text
  · rw [latest, List.getLast?_isSome, ← complete, Nat.one_le_iff_ne_zero, ne_eq, ne_eq,
      List.length_eq_zero_iff]
  · intro report last
    rw [latest, List.getLast?_eq_getElem?, complete] at last
    exact settled.reported _ report last

end Relay

end AvatarRelay
