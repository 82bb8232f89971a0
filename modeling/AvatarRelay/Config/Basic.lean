/-
# Configuration

Settings come from a look-up by name. A value that cannot be used is left at its
default, and what is loaded is then brought into range, so that a loaded
configuration can always be run with.
-/

import AvatarRelay.Config.Blank
import AvatarRelay.Config.IpAddress
import AvatarRelay.DoublePrecision
import AvatarRelay.Fanout.Visit
import AvatarRelay.Binary32.Text

namespace AvatarRelay

structure Config where
  /-- Where the metrics endpoint listens. -/
  bindAddress : IpAddress
  metricsPort : UInt16
  /-- Passes per second. -/
  tickRate : UInt32
  /-- The budget of avatar data for one receiver, in megabits per second. -/
  bandwidthMbps : Binary32
  minScale : Binary32
  maxScale : Binary32
  identityProbability : Binary32
  fullShare : Binary32
  /-- Wandering avatars to simulate. -/
  simulatedAvatars : Nat
  deriving DecidableEq, Repr

/-- Why a configuration cannot be run with. -/
inductive ConfigError
  | zeroTickRate
  | invalidBandwidth (mbps : Binary32)
  | zeroMetricsPort
  deriving DecidableEq, Repr

namespace ConfigError

def message : ConfigError → String
  | zeroTickRate => "tick_rate must be at least 1"
  | invalidBandwidth mbps =>
    "max_node_send_bandwidth must be positive, got " ++ mbps.text Binary32.Style.plain
  | zeroMetricsPort => "metrics_port cannot be 0"

end ConfigError

namespace Config

def defaultIdentityProbability : Binary32 := 1 / 187

def defaultFullShare : Binary32 := 0.02

/-- The configuration without any settings. -/
def standard : Config where
  bindAddress := IpAddress.any
  metricsPort := 9090
  tickRate := 60
  bandwidthMbps := 1
  minScale := ScaleBounds.smallest
  maxScale := ScaleBounds.greatest
  identityProbability := defaultIdentityProbability
  fullShare := defaultFullShare
  simulatedAvatars := 0

instance : Inhabited Config := ⟨standard⟩

def finiteOr (fallback number : Binary32) : Binary32 :=
  if number.isFinite then number else fallback

/-- A scale brought into the range that any domain admits. -/
def usableScale (fallback scale : Binary32) : Binary32 :=
  (finiteOr fallback scale).clamp ScaleBounds.smallest ScaleBounds.greatest

def usableProbability (fallback probability : Binary32) : Binary32 :=
  (finiteOr fallback probability).clamp 0 1

/-- The configuration with scales and probabilities in range; scale bounds in the
wrong order are swapped. -/
def normalize (config : Config) : Config :=
  let low := usableScale ScaleBounds.smallest config.minScale
  let high := usableScale ScaleBounds.greatest config.maxScale
  let inverted : Bool := high < low
  { config with
    minScale := if inverted then high else low
    maxScale := if inverted then low else high
    identityProbability :=
      usableProbability defaultIdentityProbability config.identityProbability
    fullShare := usableProbability defaultFullShare config.fullShare }

def usableBandwidth (mbps : Binary32) : Bool :=
  mbps.isFinite && 0 < mbps

/-- Whether the configuration can be run with; the first fault counts. -/
def validate (config : Config) : Except ConfigError Unit :=
  if config.tickRate = 0 then .error .zeroTickRate
  else if !usableBandwidth config.bandwidthMbps then
    .error (.invalidBandwidth config.bandwidthMbps)
  else if config.metricsPort = 0 then .error .zeroMetricsPort
  else .ok ()

/-! ## Loading -/

abbrev Lookup := String → Option String

/-- The value of a setting that can be read and used, else a default. -/
def setting {Value : Type} (lookup : Lookup) (name : String) (read : String → Option Value)
    (usable : Value → Bool) (default : Value) : Value :=
  (((lookup name).bind read).filter usable).getD default

/-- A number among the settings; blanks around it do not matter. -/
def numberSetting (lookup : Lookup) (name : String) (usable : Binary32 → Bool)
    (default : Binary32) : Binary32 :=
  setting lookup name (fun text => Binary32.ofString? (trimBlanks text)) usable default

def wholeSetting (lookup : Lookup) (name : String) (limit : Nat) (usable : Nat → Bool)
    (default : Nat) : Nat :=
  setting lookup name (fun text => wholeNumber? limit (trimBlanks text)) usable default

def maxTickRate : Nat := 1000

def maxSimulatedAvatars : Nat := 10000

def load (lookup : Lookup) : Config :=
  normalize
    { bindAddress :=
        setting lookup "BIND_ADDRESS" IpAddress.ofString? (fun _ => true) standard.bindAddress
      metricsPort :=
        UInt16.ofNat (wholeSetting lookup "METRICS_PORT" UInt16.size (0 < ·)
          standard.metricsPort.toNat)
      tickRate :=
        UInt32.ofNat (wholeSetting lookup "TICK_RATE" UInt32.size
          (fun rate => 1 ≤ rate && rate ≤ maxTickRate) standard.tickRate.toNat)
      bandwidthMbps :=
        numberSetting lookup "MAX_NODE_SEND_BANDWIDTH" usableBandwidth standard.bandwidthMbps
      minScale := numberSetting lookup "MIN_AVATAR_SCALE" (fun _ => true) standard.minScale
      maxScale := numberSetting lookup "MAX_AVATAR_SCALE" (fun _ => true) standard.maxScale
      identityProbability :=
        numberSetting lookup "IDENTITY_SEND_PROBABILITY" (fun _ => true)
          standard.identityProbability
      fullShare := numberSetting lookup "FULL_UPDATE_RATIO" (fun _ => true) standard.fullShare
      simulatedAvatars :=
        wholeSetting lookup "SIMULATED_AVATARS" UInt64.size (· ≤ maxSimulatedAvatars)
          standard.simulatedAvatars }

def targetKbps (config : Config) : Binary32 :=
  config.bandwidthMbps * 1000

def scaleBounds (config : Config) : ScaleBounds :=
  ⟨config.minScale, config.maxScale⟩

/-- The time from tick to tick: one second over the rate in double precision, to
the nearest nanosecond. A rate of zero counts as one. -/
def tickDuration (config : Config) : Duration :=
  (BinaryFraction.nearest 1 (max config.tickRate.toNat 1)).roundScaled nanosPerSecond

def fanoutSettings (config : Config) : FanoutSettings where
  targetKbps := config.targetKbps
  tickRate := config.tickRate
  identityProbability := config.identityProbability
  fullShare := config.fullShare

end Config

instance : Inhabited FanoutSettings := ⟨Config.standard.fanoutSettings⟩

end AvatarRelay
