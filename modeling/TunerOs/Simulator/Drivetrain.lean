-- SUMMARY: The drivetrain: engine speed and gear for a speed, and one step of the CITY and WOT_PULL drivetrains.
import TunerOs.Simulator.Contracts
import TunerOs.Simulator.Parameters
import Mathlib.Data.Int.Order.Basic
import Mathlib.Tactic.Linarith

/-!
# Drivetrain
-/

namespace TunerOs

/-- `std::clamp`, which is defined when `low ≤ high`. -/
def clamp (value low high : ℚ) : ℚ := min (max value low) high

theorem le_clamp {value low high : ℚ} (h : low ≤ high) : low ≤ clamp value low high :=
  le_min (le_max_right _ _) h

theorem clamp_le {value low high : ℚ} : clamp value low high ≤ high := min_le_right _ _

theorem isNormalized_clamp (value : ℚ) : IsNormalized (clamp value 0 1) :=
  ⟨le_clamp zero_le_one, clamp_le⟩

structure DrivetrainState where
  vehicleSpeedMetersPerSecond : ℚ
  selectedGear : Int8
  engineSpeedRpm : ℚ
deriving DecidableEq

/-- `rpm_factor_for_gear`. -/
def rpmFactorForGear (gear : Int8) : ℚ :=
  if gear = 1 then kGear1RpmPerMeterPerSecond
  else if gear = 2 then kGear2RpmPerMeterPerSecond
  else if gear = 3 then kGear3RpmPerMeterPerSecond
  else if gear = 4 then kGear4RpmPerMeterPerSecond
  else if gear = 5 then kGear5RpmPerMeterPerSecond
  else if gear = 6 then kGear6RpmPerMeterPerSecond
  else 0

/-- `engine_speed_for_gear`. -/
def engineSpeedForGear (vehicleSpeedMetersPerSecond : ℚ) (gear : Int8) (profile : VehicleProfile) :
    ℚ :=
  if gear.toInt ≤ 0 ∨ vehicleSpeedMetersPerSecond ≤ 0 then kIdleTargetRpm
  else
    let coupledRpm := vehicleSpeedMetersPerSecond * rpmFactorForGear gear
    clamp coupledRpm kIdleTargetRpm profile.redlineRpm

/-- `city_gear_for_speed`. -/
def cityGearForSpeed (vehicleSpeedMetersPerSecond : ℚ) (stationaryIntent : Bool) : Int8 :=
  if stationaryIntent = true ∧ vehicleSpeedMetersPerSecond ≤ kCityStopSpeedEpsilonMetersPerSecond then
    0
  else if vehicleSpeedMetersPerSecond < kCitySecondGearThresholdMetersPerSecond then 1
  else if vehicleSpeedMetersPerSecond < kCityThirdGearThresholdMetersPerSecond then 2
  else if vehicleSpeedMetersPerSecond < kCityFourthGearThresholdMetersPerSecond then 3
  else 4

/-- The acceleration of `evolve_city_drivetrain`. -/
def cityAcceleration (currentSpeed acceleratorPedalPosition : ℚ) (stationaryIntent : Bool) : ℚ :=
  if stationaryIntent then
    if 0 < currentSpeed then -kCityStopDecelerationMetersPerSecondSquared else 0
  else
    let driveAcceleration :=
      acceleratorPedalPosition * kCityMaximumDriveAccelerationMetersPerSecondSquared
    let resistance :=
      if 0 < currentSpeed then
        kCityRollingDecelerationMetersPerSecondSquared +
          kCityDragDecelerationPerMeterPerSecond * currentSpeed
      else 0
    driveAcceleration - resistance

/-- `evolve_city_drivetrain`. -/
def evolveCityDrivetrain (currentSpeed acceleratorPedalPosition : ℚ) (stationaryIntent : Bool)
    (deltaTimeSeconds : ℚ) (profile : VehicleProfile) : DrivetrainState :=
  let acceleration := cityAcceleration currentSpeed acceleratorPedalPosition stationaryIntent
  let speed := max 0 (currentSpeed + acceleration * deltaTimeSeconds)
  let speed :=
    if stationaryIntent = true ∧ speed ≤ kCityStopSpeedEpsilonMetersPerSecond then 0 else speed
  let gear := cityGearForSpeed speed stationaryIntent
  { vehicleSpeedMetersPerSecond := speed
    selectedGear := gear
    engineSpeedRpm := engineSpeedForGear speed gear profile }

/-- `evolve_wot_pull_drivetrain`. -/
def evolveWotPullDrivetrain (currentSpeed normalizedEngineOutput deltaTimeSeconds : ℚ)
    (profile : VehicleProfile) : DrivetrainState :=
  let output := clamp normalizedEngineOutput 0 2
  let resistance := kCityRollingDecelerationMetersPerSecondSquared +
    kCityDragDecelerationPerMeterPerSecond * currentSpeed
  let acceleration := output * kWotPullMaximumAccelerationMetersPerSecondSquared - resistance
  let speed := max 0 (currentSpeed + acceleration * deltaTimeSeconds)
  { vehicleSpeedMetersPerSecond := speed
    selectedGear := kWotPullGear
    engineSpeedRpm := engineSpeedForGear speed kWotPullGear profile }

/-- The engine speed is in range when the redline is not below the idle speed. -/
theorem engineSpeedForGear_mem {profile : VehicleProfile} (h : kIdleTargetRpm ≤ profile.redlineRpm)
    (speed : ℚ) (gear : Int8) :
    0 ≤ engineSpeedForGear speed gear profile ∧
      engineSpeedForGear speed gear profile ≤ profile.redlineRpm := by
  have hidle : 0 ≤ kIdleTargetRpm := by norm_num [kIdleTargetRpm]
  unfold engineSpeedForGear
  split
  · exact ⟨hidle, h⟩
  · exact ⟨hidle.trans (le_clamp h), clamp_le⟩

end TunerOs
