/-
# Loaded configurations

Whatever the settings are, the configuration that is loaded from them can be run with: what
cannot be used is left at its default, and the rest is brought into range. A configuration that
is in range is left as it is, so bringing it into range once is enough; and with the bounds of
such a configuration scales can always be clamped, and are then within them.
-/

import AvatarRelay.Proofs.Bounds

namespace AvatarRelay

namespace Binary32

theorem isFinite_one : (1 : Binary32).isFinite = true := by
  decide

theorem zero_le_one : (0 : Binary32) ≤ 1 := by
  decide

/-- A number from zero to one. Since it is comparable, it is not a NaN. -/
structure IsProbability (number : Binary32) : Prop where
  zero_le : 0 ≤ number
  le_one : number ≤ 1

end Binary32

namespace ScaleBounds

/-- Clamping where it is defined at all: between bounds in order, neither of which is a NaN. -/
def clamp? (bounds : ScaleBounds) (scale : Binary32) : Option Binary32 :=
  if bounds.low ≤ bounds.high then some (bounds.clamp scale) else none

theorem Ordered.clamp?_eq {bounds : ScaleBounds} (ordered : bounds.Ordered) (scale : Binary32) :
    bounds.clamp? scale = some (bounds.clamp scale) :=
  if_pos ordered

end ScaleBounds

namespace Avatar

/-- The scale of a pose that is taken over is clamped from a finite one. -/
theorem scale_of_applyPose? {avatar after : Avatar} {pose : Pose}
    (taken : avatar.applyPose? pose = some after) :
    ∃ scale : Binary32, scale.isFinite = true ∧ after.pose.scale = avatar.bounds.clamp scale := by
  unfold applyPose? at taken
  split at taken
  · cases taken
  · cases taken
    refine ⟨if pose.scale.isFinite then pose.scale else 1, ?_, rfl⟩
    split
    · next finite => exact finite
    · exact Binary32.isFinite_one

end Avatar

namespace Config

variable {config : Config}

/-- Scales and probabilities are within their ranges. -/
structure InRange (config : Config) : Prop where
  smallest_le : 0.005 ≤ config.minScale
  inOrder : config.minScale ≤ config.maxScale
  le_greatest : config.maxScale ≤ 1000
  identity : config.identityProbability.IsProbability
  full : config.fullShare.IsProbability

theorem isFinite_finiteOr {fallback : Binary32} (finite : fallback.isFinite = true)
    (number : Binary32) : (finiteOr fallback number).isFinite = true := by
  unfold finiteOr
  split
  · next usable => exact usable
  · exact finite

theorem usableScale_of_within {scale : Binary32} (fallback : Binary32)
    (above : ScaleBounds.smallest ≤ scale) (below : scale ≤ ScaleBounds.greatest) :
    usableScale fallback scale = scale := by
  have finite := Binary32.isFinite_of_within ScaleBounds.isFinite_smallest
    ScaleBounds.isFinite_greatest above below
  rw [usableScale, finiteOr, if_pos finite, Binary32.clamp_of_within above below]

theorem isProbability_usable {fallback : Binary32} (finite : fallback.isFinite = true)
    (number : Binary32) : (usableProbability fallback number).IsProbability := by
  have real := Binary32.isNaN_of_isFinite (isFinite_finiteOr finite number)
  obtain ⟨above, below⟩ := Binary32.clamp_within real Binary32.zero_le_one
  exact ⟨above, below⟩

theorem usableProbability_of_isProbability {number : Binary32} (fallback : Binary32)
    (probability : number.IsProbability) : usableProbability fallback number = number := by
  obtain ⟨above, below⟩ := probability
  have finite : number.isFinite = true :=
    Binary32.isFinite_of_within (by decide) Binary32.isFinite_one above below
  rw [usableProbability, finiteOr, if_pos finite, Binary32.clamp_of_within above below]

theorem isFinite_defaultIdentityProbability : defaultIdentityProbability.isFinite = true := by
  decide +kernel

theorem isFinite_defaultFullShare : defaultFullShare.isFinite = true := by
  decide +kernel

theorem inRange_normalize (config : Config) : config.normalize.InRange := by
  obtain ⟨lowAbove, lowBelow⟩ :=
    usableScale_within ScaleBounds.isFinite_smallest config.minScale
  obtain ⟨highAbove, highBelow⟩ :=
    usableScale_within ScaleBounds.isFinite_greatest config.maxScale
  rw [normalize]
  refine ⟨?_, ?_, ?_, isProbability_usable isFinite_defaultIdentityProbability _,
    isProbability_usable isFinite_defaultFullShare _⟩
  · dsimp only
    split
    · exact highAbove
    · exact lowAbove
  · exact ScaleBounds.swapped_ordered (Binary32.le_iff.mp lowAbove).2.1
      (Binary32.le_iff.mp highAbove).2.1
  · dsimp only
    split
    · exact lowBelow
    · exact highBelow

theorem InRange.normalize_eq (range : config.InRange) : config.normalize = config := by
  obtain ⟨above, inOrder, below, identity, full⟩ := range
  have low : usableScale ScaleBounds.smallest config.minScale = config.minScale :=
    usableScale_of_within _ above (Binary32.le_trans inOrder below)
  have high : usableScale ScaleBounds.greatest config.maxScale = config.maxScale :=
    usableScale_of_within _ (Binary32.le_trans above inOrder) below
  simp only [normalize, low, high, decide_eq_false (Binary32.not_lt_of_le inOrder),
    usableProbability_of_isProbability _ identity, usableProbability_of_isProbability _ full,
    Bool.false_eq_true, if_false]

theorem lt_of_wholeNumber? {limit value : Nat} {text : String}
    (read : wholeNumber? limit text = some value) : value < limit := by
  simp only [wholeNumber?, Option.ite_none_left_eq_some, Option.ite_none_right_eq_some] at read
  obtain ⟨-, below, same⟩ := read
  cases same
  exact below

/-- What holds of the default of a setting and of every usable value that can be read holds of
the setting. -/
theorem setting_holds {Value : Type} {read : String → Option Value} {usable : Value → Bool}
    {default : Value} (holds : Value → Prop) (lookup : Lookup) (name : String)
    (byDefault : holds default)
    (ofRead : ∀ text value, read text = some value → usable value = true → holds value) :
    holds (setting lookup name read usable default) := by
  unfold setting
  cases found : ((lookup name).bind read).filter usable with
  | none => exact byDefault
  | some value =>
    obtain ⟨readable, use⟩ := Option.filter_eq_some_iff.mp found
    obtain ⟨text, -, read⟩ := Option.bind_eq_some_iff.mp readable
    exact ofRead text value read use

/-- A whole number is below its limit and usable, if its default is. -/
theorem wholeSetting_spec (lookup : Lookup) (name : String) (limit : Nat) (usable : Nat → Bool)
    (default : Nat) (below : default < limit) (use : usable default = true) :
    wholeSetting lookup name limit usable default < limit ∧
      usable (wholeSetting lookup name limit usable default) = true :=
  setting_holds (fun value => value < limit ∧ usable value = true) lookup name ⟨below, use⟩
    fun _ _ read use => ⟨lt_of_wholeNumber? read, use⟩

theorem usable_numberSetting {usable : Binary32 → Bool} {default : Binary32} (lookup : Lookup)
    (name : String) (use : usable default = true) :
    usable (numberSetting lookup name usable default) = true :=
  setting_holds (fun number => usable number = true) lookup name use fun _ _ _ use => use

/-- A configuration that can be run with. -/
structure Usable (config : Config) : Prop extends InRange config where
  valid : config.validate = .ok ()
  tickRate : 1 ≤ config.tickRate.toNat ∧ config.tickRate.toNat ≤ 1000
  metricsPort : config.metricsPort ≠ 0
  simulatedAvatars : config.simulatedAvatars ≤ 10000
  bandwidth : config.bandwidthMbps.isFinite = true ∧ 0 < config.bandwidthMbps
  real : ∀ number ∈ [config.bandwidthMbps, config.minScale, config.maxScale,
    config.identityProbability, config.fullShare], number.isNaN = false

theorem tickRate_load (lookup : Lookup) :
    1 ≤ (load lookup).tickRate.toNat ∧ (load lookup).tickRate.toNat ≤ 1000 := by
  obtain ⟨below, use⟩ := wholeSetting_spec lookup "TICK_RATE" UInt32.size
    (fun rate => 1 ≤ rate && rate ≤ maxTickRate) standard.tickRate.toNat (by decide) (by decide)
  have loaded : (load lookup).tickRate.toNat = _ := UInt32.toNat_ofNat_of_lt' below
  rw [Bool.and_eq_true, decide_eq_true_eq, decide_eq_true_eq] at use
  rw [loaded]
  exact use

theorem metricsPort_load (lookup : Lookup) : (load lookup).metricsPort ≠ 0 := by
  obtain ⟨below, use⟩ := wholeSetting_spec lookup "METRICS_PORT" UInt16.size (0 < ·)
    standard.metricsPort.toNat (by decide) (by decide)
  have loaded : (load lookup).metricsPort.toNat = _ := UInt16.toNat_ofNat_of_lt' below
  rw [decide_eq_true_eq, ← loaded] at use
  intro zero
  rw [zero] at use
  exact absurd use (by decide)

theorem simulatedAvatars_load (lookup : Lookup) : (load lookup).simulatedAvatars ≤ 10000 := by
  have use := (wholeSetting_spec lookup "SIMULATED_AVATARS" UInt64.size (· ≤ maxSimulatedAvatars)
    standard.simulatedAvatars (by decide) (by decide)).2
  exact of_decide_eq_true use

theorem bandwidth_load (lookup : Lookup) :
    (load lookup).bandwidthMbps.isFinite = true ∧ 0 < (load lookup).bandwidthMbps := by
  have default : usableBandwidth standard.bandwidthMbps = true := by decide
  have use : usableBandwidth (load lookup).bandwidthMbps = true :=
    usable_numberSetting lookup "MAX_NODE_SEND_BANDWIDTH" default
  rwa [usableBandwidth, Bool.and_eq_true, decide_eq_true_eq] at use

theorem inRange_load (lookup : Lookup) : (load lookup).InRange := by
  unfold load
  exact inRange_normalize _

theorem validate_load (lookup : Lookup) : (load lookup).validate = .ok () := by
  obtain ⟨finite, positive⟩ := bandwidth_load lookup
  have rate : (load lookup).tickRate ≠ 0 := by
    intro zero
    have least := (tickRate_load lookup).1
    rw [zero] at least
    exact absurd least (by decide)
  have usable : usableBandwidth (load lookup).bandwidthMbps = true := by
    rw [usableBandwidth, finite, decide_eq_true positive, Bool.and_self]
  rw [validate, if_neg rate, usable, if_neg (by decide), if_neg (metricsPort_load lookup)]

theorem InRange.real (range : config.InRange) : ∀ number ∈ [config.minScale, config.maxScale,
    config.identityProbability, config.fullShare], number.isNaN = false := by
  simp only [List.forall_mem_cons, List.not_mem_nil, false_implies, implies_true, and_true]
  exact ⟨(Binary32.le_iff.mp range.inOrder).1, (Binary32.le_iff.mp range.inOrder).2.1,
    (Binary32.le_iff.mp range.identity.le_one).1, (Binary32.le_iff.mp range.full.le_one).1⟩

theorem usable_load (lookup : Lookup) : (load lookup).Usable where
  toInRange := inRange_load lookup
  valid := validate_load lookup
  tickRate := tickRate_load lookup
  metricsPort := metricsPort_load lookup
  simulatedAvatars := simulatedAvatars_load lookup
  bandwidth := bandwidth_load lookup
  real := List.forall_mem_cons.mpr
    ⟨Binary32.isNaN_of_isFinite (bandwidth_load lookup).1, (inRange_load lookup).real⟩

end Config

/-- Every configuration that is loaded can be run with, whatever the settings are. Bringing a
configuration into range a second time changes nothing; after the first time scales can be
clamped with its bounds, finite ones come to lie within them, and so does the scale of every pose
that an avatar with these bounds takes over. -/
theorem configurations_usable :
    (∀ lookup, (Config.load lookup).Usable) ∧
      ∀ config : Config, config.normalize.normalize = config.normalize ∧
        let bounds := config.normalize.scaleBounds
        (∀ scale, bounds.clamp? scale = some (bounds.clamp scale)) ∧
          (∀ scale, scale.isFinite = true →
            config.normalize.minScale ≤ bounds.clamp scale ∧
              bounds.clamp scale ≤ config.normalize.maxScale) ∧
          ∀ (avatar after : Avatar) (pose : Pose), avatar.bounds = bounds →
            avatar.applyPose? pose = some after →
              config.normalize.minScale ≤ after.pose.scale ∧
                after.pose.scale ≤ config.normalize.maxScale := by
  refine ⟨Config.usable_load, fun config => ?_⟩
  have ordered := config.ordered_normalize
  refine ⟨config.inRange_normalize.normalize_eq, fun scale => ordered.clamp?_eq scale,
    fun scale finite => ordered.clamp_within finite, fun avatar after pose bounded taken => ?_⟩
  obtain ⟨scale, finite, stored⟩ := Avatar.scale_of_applyPose? taken
  rw [stored, bounded]
  exact ordered.clamp_within finite

end AvatarRelay
