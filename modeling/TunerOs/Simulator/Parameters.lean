-- SUMMARY: The constants of the vehicle model and of its faults.
import Mathlib.Algebra.Order.Ring.Rat
import Mathlib.Data.Rat.Defs

/-!
# Model parameters

Modelling assumptions of the simulator, as exact rationals.
-/

namespace TunerOs

def kIdleTargetRpm : ℚ := 750
def kInitialEngineSpeedRpm : ℚ := 850
def kIdleRpmTimeConstantSeconds : ℚ := 1.5

def kInitialCoolantAboveAmbientCelsius : ℚ := 5
def kCoolantIdleEquilibriumCelsius : ℚ := 92
def kCoolantWarmupTimeConstantSeconds : ℚ := 300

def kInitialOilAboveAmbientCelsius : ℚ := 2
def kOilIdleEquilibriumCelsius : ℚ := 100
def kOilWarmupTimeConstantSeconds : ℚ := 600

def kInitialIntakeAirAboveAmbientCelsius : ℚ := 3
def kIntakeAirAboveAmbientAtIdleCelsius : ℚ := 10
def kIntakeAirTimeConstantSeconds : ℚ := 60

def kInitialBatteryVoltageVolts : ℚ := 13.8
def kChargingVoltageVolts : ℚ := 14.2
def kBatteryVoltageTimeConstantSeconds : ℚ := 1

def kIdleEngineLoad : ℚ := 0.18
def kIdleThrottlePosition : ℚ := 0.06
def kIdleRequestedScenarioLoad : ℚ := 0.10
def kIdleManifoldPressureFractionOfAmbient : ℚ := 0.40
def kIdleLambda : ℚ := 1
def kIdleIgnitionAdvanceDegrees : ℚ := 8

def kRestingBatteryVoltageVolts : ℚ := 12.6
def kColdStartCoolantAboveAmbientCelsius : ℚ := 0
def kColdStartOilAboveAmbientCelsius : ℚ := 0
def kColdStartElevatedRequestedScenarioLoad : ℚ := 0.40
def kColdStartElevatedRpmTarget : ℚ := 1200
def kColdStartRpmResponseTimeConstantSeconds : ℚ := 0.75
def kColdStartEngineLoadIncrease : ℚ := 0.30
def kColdStartThrottleIncrease : ℚ := 0.04

def kWarmupCoolantAboveAmbientCelsius : ℚ := 20
def kWarmupOilAboveAmbientCelsius : ℚ := 15
def kWarmupIntakeAirAboveAmbientCelsius : ℚ := 5

def kColdStartRequestTimestampMicroseconds : UInt64 := 1000000
def kColdStartStabilizationDurationMicroseconds : UInt64 := 20000000
def kDefaultIdleDurationMicroseconds : UInt64 := 60000000
def kDefaultColdStartDurationMicroseconds : UInt64 := 90000000
def kDefaultWarmupDurationMicroseconds : UInt64 := 300000000

def kCityMaximumDriveAccelerationMetersPerSecondSquared : ℚ := 2
def kCityRollingDecelerationMetersPerSecondSquared : ℚ := 0.45
def kCityDragDecelerationPerMeterPerSecond : ℚ := 0.025
def kCityStopDecelerationMetersPerSecondSquared : ℚ := 1.5
def kCityStopSpeedEpsilonMetersPerSecond : ℚ := 0.05

def kGear1RpmPerMeterPerSecond : ℚ := 310
def kGear2RpmPerMeterPerSecond : ℚ := 200
def kGear3RpmPerMeterPerSecond : ℚ := 145
def kGear4RpmPerMeterPerSecond : ℚ := 110
def kGear5RpmPerMeterPerSecond : ℚ := 90
def kGear6RpmPerMeterPerSecond : ℚ := 75
def kCitySecondGearThresholdMetersPerSecond : ℚ := 4.5
def kCityThirdGearThresholdMetersPerSecond : ℚ := 8
def kCityFourthGearThresholdMetersPerSecond : ℚ := 12

def kCityEngineLoadOffset : ℚ := 0.08
def kCityThrottlePerAccelerator : ℚ := 0.60
def kCityMaximumManifoldPressureFractionOfAmbient : ℚ := 1

def kCityInitialCoolantAboveAmbientCelsius : ℚ := 35
def kCityInitialOilAboveAmbientCelsius : ℚ := 30
def kCityInitialIntakeAirAboveAmbientCelsius : ℚ := 5

def kCityFirstAccelerationAccelerator : ℚ := 0.45
def kCityFirstAccelerationLoad : ℚ := 0.50
def kCityFirstCruiseAccelerator : ℚ := 0.30
def kCityFirstCruiseLoad : ℚ := 0.35
def kCitySecondAccelerationAccelerator : ℚ := 0.55
def kCitySecondAccelerationLoad : ℚ := 0.60
def kCitySecondCruiseAccelerator : ℚ := 0.36
def kCitySecondCruiseLoad : ℚ := 0.40

def kCityFirstDepartureTimestampMicroseconds : UInt64 := 5000000
def kCityFirstCruiseTimestampMicroseconds : UInt64 := 20000000
def kCityFirstDecelerationTimestampMicroseconds : UInt64 := 32000000
def kCityFirstStopIntentTimestampMicroseconds : UInt64 := 45000000
def kCitySecondDepartureTimestampMicroseconds : UInt64 := 55000000
def kCitySecondCruiseTimestampMicroseconds : UInt64 := 75000000
def kCityFinalDecelerationTimestampMicroseconds : UInt64 := 88000000
def kCityFinalStopIntentTimestampMicroseconds : UInt64 := 100000000
def kDefaultCityDurationMicroseconds : UInt64 := 105000000

def kWotPullInitialSpeedMetersPerSecond : ℚ := 15
def kWotPullGear : Int8 := 3
def kWotPullPreloadAccelerator : ℚ := 0.12
def kWotPullPreloadRequestedLoad : ℚ := 0.18
def kWotPullAccelerator : ℚ := 1
def kWotPullRequestedLoad : ℚ := 1
def kWotPullMaximumAccelerationMetersPerSecondSquared : ℚ := 3
def kWotPullLambdaTimeConstantSeconds : ℚ := 0.25
def kWotPullIgnitionTimeConstantSeconds : ℚ := 0.20
def kWotPullIntakeAirBoostHeatingCelsiusPerKpa : ℚ := 0.08
def kWotPullThrottleTimestampMicroseconds : UInt64 := 2000000
def kDefaultWotPullDurationMicroseconds : UInt64 := 12000000

/-! ## Fault parameters -/

def kDegradedCoolingEquilibriumCelsius : ℚ := 140
def kDegradedCoolingTimeConstantSeconds : ℚ := 15
def kFailedChargingVoltageVolts : ℚ := 11.8
def kFailedChargingTimeConstantSeconds : ℚ := 0.5

end TunerOs
