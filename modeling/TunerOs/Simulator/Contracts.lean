-- SUMMARY: The simulator's contracts: profiles, environments, the vehicle state the ECU encoders read, and their validity.
import Mathlib.Algebra.Order.Ring.Rat
import Mathlib.Data.Rat.Defs

/-!
# Simulator contracts

`double` fields are exact rationals, so every field is finite and the checks for
finite values cannot fail.
-/

namespace TunerOs

/-- `std::numeric_limits<std::uint64_t>::max()`. -/
def maximumUInt64 : UInt64 := 0xFFFFFFFFFFFFFFFF

inductive SimulationRunState where
  | stopped
  | running
  | paused
  | completed
deriving DecidableEq

/-- Canonical pre-ECU vehicle state; the timestamp is in microseconds. -/
structure VehicleState where
  timestamp : UInt64
  runState : SimulationRunState
  acceleratorPedalPosition : ℚ
  requestedScenarioLoad : ℚ
  engineRunning : Bool
  engineSpeedRpm : ℚ
  engineLoad : ℚ
  throttlePosition : ℚ
  vehicleSpeedMetersPerSecond : ℚ
  /-- 0 is neutral, positive values are forward gears. -/
  currentGear : Int8
  ambientPressureKpaAbsolute : ℚ
  manifoldPressureKpaAbsolute : ℚ
  requestedBoostKpaGauge : ℚ
  coolantTemperatureCelsius : ℚ
  oilTemperatureCelsius : ℚ
  intakeAirTemperatureCelsius : ℚ
  lambda : ℚ
  ignitionAdvanceDegrees : ℚ
  timingCorrectionDegrees : ℚ
  batteryVoltageVolts : ℚ
deriving DecidableEq

inductive ScenarioId where
  | idle
  | coldStart
  | warmup
  | city
  | highway
  | spirited
  | wideOpenThrottlePull
  | dynoPull
deriving DecidableEq, Repr

structure VehicleProfile where
  profileId : String
  manufacturer : String
  model : String
  chassis : String
  modelYear : UInt16
  engineFamily : String
  engineIdentifier : String
  cylinderCount : UInt8
  displacementLiters : ℚ
  fuelType : String
  forwardGearCount : UInt8
  redlineRpm : ℚ
  baselineCalibrationId : String
deriving DecidableEq

structure EnvironmentState where
  ambientTemperatureCelsius : ℚ := 20
  ambientPressureKpaAbsolute : ℚ := 101.325
deriving DecidableEq

/-- `actual_boost_kpa_gauge`. -/
def VehicleState.actualBoostKpaGauge (state : VehicleState) : ℚ :=
  state.manifoldPressureKpaAbsolute - state.ambientPressureKpaAbsolute

/-! ## Validity -/

/-- `is_normalized`. -/
def IsNormalized (value : ℚ) : Prop := 0 ≤ value ∧ value ≤ 1

instance (value : ℚ) : Decidable (IsNormalized value) := inferInstanceAs (Decidable (_ ∧ _))

/-- `is_valid(profile)`. -/
def VehicleProfile.IsValid (profile : VehicleProfile) : Prop :=
  profile.profileId ≠ "" ∧ profile.manufacturer ≠ "" ∧ profile.model ≠ "" ∧
    profile.chassis ≠ "" ∧ 0 < profile.modelYear ∧ profile.engineFamily ≠ "" ∧
    profile.engineIdentifier ≠ "" ∧ 0 < profile.cylinderCount ∧ 0 < profile.displacementLiters ∧
    profile.fuelType ≠ "" ∧ 1 ≤ profile.forwardGearCount ∧ 0 < profile.redlineRpm ∧
    profile.baselineCalibrationId ≠ ""

instance (profile : VehicleProfile) : Decidable profile.IsValid :=
  inferInstanceAs (Decidable (_ ∧ _))

/-- `is_valid(environment)`. -/
def EnvironmentState.IsValid (environment : EnvironmentState) : Prop :=
  0 ≤ environment.ambientPressureKpaAbsolute

instance (environment : EnvironmentState) : Decidable environment.IsValid :=
  inferInstanceAs (Decidable (_ ≤ _))

/-- `is_valid(state, profile)`. -/
structure VehicleState.IsValid (state : VehicleState) (profile : VehicleProfile) : Prop where
  validProfile : profile.IsValid
  acceleratorPedalPosition : IsNormalized state.acceleratorPedalPosition
  requestedScenarioLoad : IsNormalized state.requestedScenarioLoad
  engineSpeed : 0 ≤ state.engineSpeedRpm ∧ state.engineSpeedRpm ≤ profile.redlineRpm
  stopped : state.engineRunning = true ∨ state.engineSpeedRpm = 0
  engineLoad : IsNormalized state.engineLoad
  throttlePosition : IsNormalized state.throttlePosition
  vehicleSpeed : 0 ≤ state.vehicleSpeedMetersPerSecond
  gear : 0 ≤ state.currentGear.toInt ∧
    state.currentGear.toInt ≤ profile.forwardGearCount.toNat
  moving : state.vehicleSpeedMetersPerSecond = 0 ∨
    (state.engineRunning = true ∧ 0 < state.currentGear.toInt)
  ambientPressure : 0 ≤ state.ambientPressureKpaAbsolute
  manifoldPressure : 0 ≤ state.manifoldPressureKpaAbsolute
  lambda : 0 < state.lambda
  timingCorrection : state.timingCorrectionDegrees ≤ 0
  batteryVoltage : 0 ≤ state.batteryVoltageVolts

instance (state : VehicleState) (profile : VehicleProfile) : Decidable (state.IsValid profile) :=
  decidable_of_iff
    (profile.IsValid ∧ IsNormalized state.acceleratorPedalPosition ∧
      IsNormalized state.requestedScenarioLoad ∧
      (0 ≤ state.engineSpeedRpm ∧ state.engineSpeedRpm ≤ profile.redlineRpm) ∧
      (state.engineRunning = true ∨ state.engineSpeedRpm = 0) ∧ IsNormalized state.engineLoad ∧
      IsNormalized state.throttlePosition ∧ 0 ≤ state.vehicleSpeedMetersPerSecond ∧
      (0 ≤ state.currentGear.toInt ∧
        state.currentGear.toInt ≤ profile.forwardGearCount.toNat) ∧
      (state.vehicleSpeedMetersPerSecond = 0 ∨
        (state.engineRunning = true ∧ 0 < state.currentGear.toInt)) ∧
      0 ≤ state.ambientPressureKpaAbsolute ∧ 0 ≤ state.manifoldPressureKpaAbsolute ∧
      0 < state.lambda ∧ state.timingCorrectionDegrees ≤ 0 ∧ 0 ≤ state.batteryVoltageVolts)
    ⟨fun ⟨h1, h2, h3, h4, h5, h6, h7, h8, h9, h10, h11, h12, h13, h14, h15⟩ =>
      ⟨h1, h2, h3, h4, h5, h6, h7, h8, h9, h10, h11, h12, h13, h14, h15⟩,
    fun ⟨h1, h2, h3, h4, h5, h6, h7, h8, h9, h10, h11, h12, h13, h14, h15⟩ =>
      ⟨h1, h2, h3, h4, h5, h6, h7, h8, h9, h10, h11, h12, h13, h14, h15⟩⟩

end TunerOs
