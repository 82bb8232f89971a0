/-
# Metrics as text

Metrics are served over plain requests in two forms, one line for each metric with
its meaning and kind, or one indented object; the latest report and a sign of life
have paths of their own.
-/

import AvatarRelay.Metrics.Basic

namespace AvatarRelay.Metrics

structure Exposed where
  name : String
  help : String
  /-- The kind: a gauge or a counter. -/
  kind : String
  value : String

/-- The lines of one metric. -/
def Exposed.text (metric : Exposed) : String :=
  "# HELP " ++ metric.name ++ " " ++ metric.help ++ "\n"
    ++ "# TYPE " ++ metric.name ++ " " ++ metric.kind ++ "\n"
    ++ metric.name ++ " " ++ metric.value ++ "\n"

def exposed (metrics : Metrics) (uptimeSeconds : Nat) : List Exposed :=
  let gauge (name help : String) (value : UInt64) : Exposed :=
    ⟨"avatar_mixer_" ++ name, help, "gauge", toString value.toNat⟩
  let counter (name help : String) (value : UInt64) : Exposed :=
    ⟨"avatar_mixer_" ++ name, help, "counter", toString value.toNat⟩
  let number (name help : String) (value : Binary32) : Exposed :=
    ⟨"avatar_mixer_" ++ name, help, "gauge", value.text Binary32.Style.plain⟩
  [gauge "peers" "Connected peers of any role" metrics.peers,
   gauge "agents" "Connected avatars" metrics.agents,
   gauge "listeners" "Receivers served last tick" metrics.listeners,
   counter "disconnects_total" "Peers removed" metrics.disconnects,
   gauge "tick_time_microseconds" "Current tick time in microseconds" metrics.tickMicros,
   gauge "tick_time_p95_microseconds" "95th percentile tick time" metrics.tickMicros95,
   gauge "tick_time_p99_microseconds" "99th percentile tick time" metrics.tickMicros99,
   gauge "tick_time_max_microseconds" "Maximum tick time" metrics.tickMicrosMax,
   counter "tick_count" "Total ticks processed" metrics.tickCount,
   number "throttling_ratio" "Performance throttling ratio (0-1)" metrics.throttlingRatio,
   number "trailing_sleep_percent" "Trailing share of the tick spent idle"
     metrics.sleepPercent,
   counter "avatars_sent_total" "Avatar segments forwarded" metrics.avatarsSent,
   counter "identity_packets_total" "Identity packets sent" metrics.identityPackets,
   counter "held_back_total" "Sends skipped with nothing new" metrics.heldBack,
   counter "skipped_total" "Sends with a sequence gap" metrics.skipped,
   counter "out_of_order_total" "Out-of-order sequences seen" metrics.outOfOrder,
   counter "mutex_misses_total" "Peers skipped because their lock was busy"
     metrics.contended,
   counter "muted_by_bubble_total" "Pairs muted by the ignore bubble" metrics.mutedByBubble,
   counter "send_failures_total" "Packets the transport refused" metrics.sendFailures,
   counter "packets_received_total" "Inbound packets" metrics.packetsReceived,
   counter "bytes_received_total" "Inbound bytes" metrics.bytesReceived,
   counter "bytes_sent_total" "Outbound bytes" metrics.bytesSent,
   counter "decode_errors_total" "Inbound packets that failed to decode"
     metrics.decodeErrors,
   counter "stale_updates_total" "Inbound avatar updates dropped as stale"
     metrics.staleUpdates,
   counter "uptime_seconds" "Server uptime in seconds" (UInt64.ofNat uptimeSeconds)]

def linesText (metrics : Metrics) (uptimeSeconds : Nat) : String :=
  String.join ((metrics.exposed uptimeSeconds).map Exposed.text)

/-- Members of an object, each on a line of its own with two blanks for each level
of indentation. -/
private def indentedObject (level : Nat) (members : List (String × String)) : String :=
  let indent := "".pushn ' ' (2 * level)
  let written := members.map fun (name, value) =>
    indent ++ "  \"" ++ name ++ "\": " ++ value
  "\x7b\n" ++ ",\n".intercalate written ++ "\n" ++ indent ++ "\x7d"

def passTotals (metrics : Metrics) : List (String × UInt64) :=
  [("avatars_sent", metrics.avatarsSent),
   ("identity_packets", metrics.identityPackets),
   ("held_back", metrics.heldBack),
   ("skipped", metrics.skipped),
   ("out_of_order", metrics.outOfOrder),
   ("mutex_misses", metrics.contended),
   ("muted_by_bubble", metrics.mutedByBubble),
   ("send_failures", metrics.sendFailures)]

/-- The totals of all traffic by name. -/
def trafficTotals (metrics : Metrics) : List (String × UInt64) :=
  [("packets_received", metrics.packetsReceived),
   ("bytes_received", metrics.bytesReceived),
   ("bytes_sent", metrics.bytesSent),
   ("decode_errors", metrics.decodeErrors),
   ("stale_updates", metrics.staleUpdates)]

def objectText (metrics : Metrics) (uptimeSeconds : Nat) : String :=
  let count (value : UInt64) : String := toString value.toNat
  let counts (totals : List (String × UInt64)) : String :=
    indentedObject 1 (totals.map fun (name, value) => (name, count value))
  let number (value : Binary32) : String := value.text Binary32.Style.plain
  indentedObject 0
    [("peers", indentedObject 1
       [("total", count metrics.peers),
        ("agents", count metrics.agents),
        ("listeners", count metrics.listeners),
        ("disconnects", count metrics.disconnects)]),
     ("performance", indentedObject 1
       [("tick_time_us", count metrics.tickMicros),
        ("tick_time_p95_us", count metrics.tickMicros95),
        ("tick_time_p99_us", count metrics.tickMicros99),
        ("tick_time_max_us", count metrics.tickMicrosMax),
        ("tick_count", count metrics.tickCount),
        ("throttling_ratio", number metrics.throttlingRatio),
        ("trailing_sleep_percent", number metrics.sleepPercent)]),
     ("broadcast", counts metrics.passTotals),
     ("network", counts metrics.trafficTotals),
     ("uptime_seconds", toString uptimeSeconds)]

def okResponse (contentType body : String) : String :=
  "HTTP/1.1 200 OK\r\nContent-Type: " ++ contentType
    ++ "\r\nContent-Length: " ++ toString body.utf8ByteSize
    ++ "\r\nConnection: close\r\n\r\n" ++ body

def notFoundResponse : String :=
  "HTTP/1.1 404 Not Found\r\nContent-Length: 0\r\nConnection: close\r\n\r\n"

/-- The response to a request, by how it begins. A connection that sends nothing is
sent nothing. -/
def respond (metrics : Metrics) (uptimeSeconds : Nat) (request : String) : String :=
  if request.isEmpty then ""
  else if request.startsWith "GET /metrics/json" then
    okResponse "application/json" (metrics.objectText uptimeSeconds)
  else if request.startsWith "GET /metrics" then
    okResponse "text/plain; version=0.0.4" (metrics.linesText uptimeSeconds)
  else if request.startsWith "GET /stats" then
    okResponse "application/json" metrics.latestReport
  else if request.startsWith "GET /health" || request.startsWith "GET / " then
    okResponse "text/plain" "OK"
  else notFoundResponse

end AvatarRelay.Metrics
