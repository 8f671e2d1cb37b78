-- SUMMARY: Initial conditions and run configurations, what the simulation accepts of them, and the default runs.
import TunerOs.Simulator.Calibration
import TunerOs.Simulator.Faults
import TunerOs.Simulator.Scenario

/-!
# Run configurations
-/

namespace TunerOs

structure SimulationInitialConditions where
  engineRunning : Bool := false
  engineSpeedRpm : ℚ := 0
  coolantTemperatureCelsius : ℚ := 0
  oilTemperatureCelsius : ℚ := 0
  intakeAirTemperatureCelsius : ℚ := 0
  batteryVoltageVolts : ℚ := 0
  vehicleSpeedMetersPerSecond : ℚ := 0
  currentGear : Int8 := 0
deriving DecidableEq

/-- `is_valid(conditions, profile)`. -/
def SimulationInitialConditions.IsValid (conditions : SimulationInitialConditions)
    (profile : VehicleProfile) : Prop :=
  profile.IsValid ∧
    0 ≤ conditions.engineSpeedRpm ∧ conditions.engineSpeedRpm ≤ profile.redlineRpm ∧
    (conditions.engineRunning = true ∨ conditions.engineSpeedRpm = 0) ∧
    0 ≤ conditions.batteryVoltageVolts ∧
    0 ≤ conditions.vehicleSpeedMetersPerSecond ∧ 0 ≤ conditions.currentGear.toInt ∧
    conditions.currentGear.toInt ≤ profile.forwardGearCount.toNat ∧
    (conditions.vehicleSpeedMetersPerSecond = 0 ∨
      (conditions.engineRunning = true ∧ 0 < conditions.currentGear.toInt))

instance (conditions : SimulationInitialConditions) (profile : VehicleProfile) :
    Decidable (conditions.IsValid profile) :=
  inferInstanceAs (Decidable (_ ∧ _))

/-- The initial conditions of a warm engine, above the ambient temperature by these amounts. -/
def makeRunningConditions (environment : EnvironmentState)
    (engineSpeed coolant oil intakeAir battery : ℚ) : SimulationInitialConditions where
  engineRunning := true
  engineSpeedRpm := engineSpeed
  coolantTemperatureCelsius := environment.ambientTemperatureCelsius + coolant
  oilTemperatureCelsius := environment.ambientTemperatureCelsius + oil
  intakeAirTemperatureCelsius := environment.ambientTemperatureCelsius + intakeAir
  batteryVoltageVolts := battery

/-- `make_idle_initial_conditions`. -/
def makeIdleInitialConditions (environment : EnvironmentState) : SimulationInitialConditions :=
  makeRunningConditions environment kInitialEngineSpeedRpm kInitialCoolantAboveAmbientCelsius
    kInitialOilAboveAmbientCelsius kInitialIntakeAirAboveAmbientCelsius
    kInitialBatteryVoltageVolts

/-- `make_cold_start_initial_conditions`. -/
def makeColdStartInitialConditions (environment : EnvironmentState) :
    SimulationInitialConditions where
  engineRunning := false
  engineSpeedRpm := 0
  coolantTemperatureCelsius :=
    environment.ambientTemperatureCelsius + kColdStartCoolantAboveAmbientCelsius
  oilTemperatureCelsius := environment.ambientTemperatureCelsius + kColdStartOilAboveAmbientCelsius
  intakeAirTemperatureCelsius := environment.ambientTemperatureCelsius
  batteryVoltageVolts := kRestingBatteryVoltageVolts

/-- `make_warmup_initial_conditions`. -/
def makeWarmupInitialConditions (environment : EnvironmentState) : SimulationInitialConditions :=
  makeRunningConditions environment kIdleTargetRpm kWarmupCoolantAboveAmbientCelsius
    kWarmupOilAboveAmbientCelsius kWarmupIntakeAirAboveAmbientCelsius kChargingVoltageVolts

/-- `make_city_initial_conditions`. -/
def makeCityInitialConditions (environment : EnvironmentState) : SimulationInitialConditions :=
  makeRunningConditions environment kIdleTargetRpm kCityInitialCoolantAboveAmbientCelsius
    kCityInitialOilAboveAmbientCelsius kCityInitialIntakeAirAboveAmbientCelsius
    kChargingVoltageVolts

/-- `make_wot_pull_initial_conditions`. -/
def makeWotPullInitialConditions (environment : EnvironmentState) : SimulationInitialConditions :=
  { makeRunningConditions environment
      (kWotPullInitialSpeedMetersPerSecond * kGear3RpmPerMeterPerSecond)
      kCityInitialCoolantAboveAmbientCelsius kCityInitialOilAboveAmbientCelsius
      kCityInitialIntakeAirAboveAmbientCelsius kChargingVoltageVolts with
    vehicleSpeedMetersPerSecond := kWotPullInitialSpeedMetersPerSecond
    currentGear := kWotPullGear }

/-- `kBaseSimulationStep`. -/
def kBaseSimulationStep : UInt64 := 10000

/-- Durations are in microseconds. -/
structure SimulationRunConfiguration where
  vehicleProfile : VehicleProfile
  scenario : ScenarioId := .idle
  duration : UInt64 := 60000000
  fixedStep : UInt64 := kBaseSimulationStep
  environment : EnvironmentState := {}
  initialConditions : SimulationInitialConditions := {}
  calibration : CalibrationId := .stock
  faults : List FaultConfiguration := []
deriving DecidableEq

namespace SimulationRunConfiguration

/-- The boundaries of the cold-start schedule are at ticks. -/
def ColdStartAligned (configuration : SimulationRunConfiguration) : Prop :=
  kColdStartRequestTimestampMicroseconds % configuration.fixedStep = 0 ∧
    kColdStartStabilizationDurationMicroseconds % configuration.fixedStep = 0

instance (configuration : SimulationRunConfiguration) : Decidable configuration.ColdStartAligned :=
  inferInstanceAs (Decidable (_ ∧ _))

/-- Only a WOT pull starts with the vehicle moving. -/
def InitialMotionFits (configuration : SimulationRunConfiguration) : Prop :=
  if configuration.scenario = .wideOpenThrottlePull then
    0 < configuration.initialConditions.vehicleSpeedMetersPerSecond ∧
      configuration.initialConditions.currentGear = kWotPullGear
  else
    configuration.initialConditions.vehicleSpeedMetersPerSecond = 0 ∧
      configuration.initialConditions.currentGear = 0

instance (configuration : SimulationRunConfiguration) :
    Decidable configuration.InitialMotionFits :=
  inferInstanceAs (Decidable (if configuration.scenario = .wideOpenThrottlePull then
    _ ∧ configuration.initialConditions.currentGear = kWotPullGear else _ ∧ _))

end SimulationRunConfiguration

/-- Throw unless the condition holds. -/
def require (condition : Prop) [Decidable condition] (what : String) : Except CppException Unit :=
  if condition then .ok () else .error ⟨what⟩

theorem require_bind {condition : Prop} [Decidable condition] {what : String} {α : Type}
    {rest : Except CppException α} {result : α} :
    (require condition what >>= fun _ => rest) = .ok result ↔ condition ∧ rest = .ok result := by
  unfold require
  split
  · next h => exact ⟨fun hrest => ⟨h, hrest⟩, fun hrest => hrest.2⟩
  · next h => exact ⟨nofun, fun hrest => absurd hrest.1 h⟩

theorem require_eq_ok {condition : Prop} [Decidable condition] {what : String} :
    require condition what = .ok () ↔ condition := by
  unfold require
  split
  · next h => exact ⟨fun _ => h, fun _ => rfl⟩
  · next h => exact ⟨nofun, fun hcondition => absurd hcondition h⟩

/-- `validate_configuration`; the calibration type has no unknown IDs. -/
def validateConfiguration (configuration : SimulationRunConfiguration) :
    Except CppException Unit := do
  require configuration.vehicleProfile.IsValid "simulation vehicle profile is invalid"
  require configuration.environment.IsValid "simulation environment is invalid"
  require (configuration.initialConditions.IsValid configuration.vehicleProfile)
    "simulation initial conditions are invalid"
  require (AreValidFaults configuration.faults)
    "fault configurations require unique IDs and deactivation after activation"
  require configuration.scenario.IsSupported unsupportedScenario.what
  require (configuration.duration ≠ 0) "simulation duration must be positive"
  require (configuration.fixedStep ≠ 0) "simulation fixed step must be positive"
  require (configuration.duration % configuration.fixedStep = 0)
    "simulation duration must be an integer number of fixed steps"
  require (configuration.scenario = .coldStart → configuration.ColdStartAligned)
    "cold-start schedule boundaries must align with the fixed step"
  require configuration.InitialMotionFits
    "initial speed and gear are inconsistent with the scenario"
  require (configuration.initialConditions.engineRunning =
      decide (configuration.scenario ≠ .coldStart))
    "initial engine state is inconsistent with the scenario"

/-- What an accepted configuration fulfils. -/
structure SimulationRunConfiguration.IsAccepted (configuration : SimulationRunConfiguration) :
    Prop where
  vehicleProfile : configuration.vehicleProfile.IsValid
  environment : configuration.environment.IsValid
  initialConditions : configuration.initialConditions.IsValid configuration.vehicleProfile
  faults : AreValidFaults configuration.faults
  scenario : configuration.scenario.IsSupported
  duration : configuration.duration ≠ 0
  fixedStep : configuration.fixedStep ≠ 0
  wholeSteps : configuration.duration % configuration.fixedStep = 0
  coldStart : configuration.scenario = .coldStart → configuration.ColdStartAligned
  initialMotion : configuration.InitialMotionFits
  initialEngine : configuration.initialConditions.engineRunning =
    decide (configuration.scenario ≠ .coldStart)

theorem validateConfiguration_eq_ok {configuration : SimulationRunConfiguration} :
    validateConfiguration configuration = .ok () ↔ configuration.IsAccepted := by
  simp only [validateConfiguration, require_bind, require_eq_ok]
  exact ⟨fun ⟨h1, h2, h3, h4, h5, h6, h7, h8, h9, h10, h11⟩ =>
      ⟨h1, h2, h3, h4, h5, h6, h7, h8, h9, h10, h11⟩,
    fun ⟨h1, h2, h3, h4, h5, h6, h7, h8, h9, h10, h11⟩ =>
      ⟨h1, h2, h3, h4, h5, h6, h7, h8, h9, h10, h11⟩⟩

/-! ## The default runs -/

/-- `make_e90_335i_n54_manual_profile`. -/
def makeE90335iN54ManualProfile : VehicleProfile where
  profileId := "bmw-e90-335i-n54-2010-manual"
  manufacturer := "BMW"
  model := "335i"
  chassis := "E90"
  modelYear := 2010
  engineFamily := "N54"
  engineIdentifier := "N54B30"
  cylinderCount := 6
  displacementLiters := 2.979
  fuelType := "gasoline"
  forwardGearCount := 6
  redlineRpm := 7000
  baselineCalibrationId := "tuneros-n54-stock-baseline-v0"

/-- `make_run_configuration`. -/
def makeRunConfiguration (scenario : ScenarioId) (duration : UInt64)
    (environment : EnvironmentState) (initialConditions : SimulationInitialConditions)
    (calibration : CalibrationId) : SimulationRunConfiguration :=
  { vehicleProfile := makeE90335iN54ManualProfile
    scenario
    duration
    fixedStep := kBaseSimulationStep
    environment
    initialConditions
    calibration }

/-- `make_default_idle_run_configuration`. -/
def makeDefaultIdleRunConfiguration (environment : EnvironmentState) : SimulationRunConfiguration :=
  makeRunConfiguration .idle kDefaultIdleDurationMicroseconds environment
    (makeIdleInitialConditions environment) .stock

/-- `make_default_cold_start_run_configuration`. -/
def makeDefaultColdStartRunConfiguration (environment : EnvironmentState) :
    SimulationRunConfiguration :=
  makeRunConfiguration .coldStart kDefaultColdStartDurationMicroseconds environment
    (makeColdStartInitialConditions environment) .stock

/-- `make_default_warmup_run_configuration`. -/
def makeDefaultWarmupRunConfiguration (environment : EnvironmentState) :
    SimulationRunConfiguration :=
  makeRunConfiguration .warmup kDefaultWarmupDurationMicroseconds environment
    (makeWarmupInitialConditions environment) .stock

/-- `make_default_city_run_configuration`. -/
def makeDefaultCityRunConfiguration (environment : EnvironmentState) : SimulationRunConfiguration :=
  makeRunConfiguration .city kDefaultCityDurationMicroseconds environment
    (makeCityInitialConditions environment) .stock

/-- `make_default_wot_pull_run_configuration`. -/
def makeDefaultWotPullRunConfiguration (environment : EnvironmentState)
    (calibration : CalibrationId) : SimulationRunConfiguration :=
  makeRunConfiguration .wideOpenThrottlePull kDefaultWotPullDurationMicroseconds environment
    (makeWotPullInitialConditions environment) calibration

end TunerOs
