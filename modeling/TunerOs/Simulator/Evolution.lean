-- SUMMARY: How one step changes the vehicle state in each scenario, and the state a run starts from.
import TunerOs.Simulator.Configuration
import TunerOs.Simulator.Drivetrain

/-!
# State evolution

The exponential of the first-order responses is a parameter: the code takes
`std::exp`, and what is proved here uses at most its range.
-/

namespace TunerOs

/-- A decay that can be evaluated: for negative exponents it lies in the range of `std::exp`. -/
def reciprocalDecay (x : ℚ) : ℚ := 1 / (1 - x)

/-- `kMicrosecondsPerSecond`. -/
def kMicrosecondsPerSecond : ℚ := 1000000

/-- `cold_start_fraction`. -/
def coldStartFraction (requestedScenarioLoad : ℚ) : ℚ :=
  let loadRange := kColdStartElevatedRequestedScenarioLoad - kIdleRequestedScenarioLoad
  clamp ((requestedScenarioLoad - kIdleRequestedScenarioLoad) / loadRange) 0 1

/-- `make_initial_state`. -/
def makeInitialState (configuration : SimulationRunConfiguration) :
    Except CppException VehicleState := do
  let initial := configuration.initialConditions
  let inputs ← scenarioInputsFor configuration.scenario 0 configuration.environment
  let startupFraction := coldStartFraction inputs.requestedScenarioLoad
  return {
    timestamp := 0
    runState := .running
    acceleratorPedalPosition := inputs.acceleratorPedalPosition
    requestedScenarioLoad := inputs.requestedScenarioLoad
    engineRunning := initial.engineRunning
    engineSpeedRpm := initial.engineSpeedRpm
    engineLoad :=
      if initial.engineRunning then kIdleEngineLoad + kColdStartEngineLoadIncrease * startupFraction
      else 0
    throttlePosition :=
      if initial.engineRunning then
        kIdleThrottlePosition + kColdStartThrottleIncrease * startupFraction
      else 0
    vehicleSpeedMetersPerSecond := initial.vehicleSpeedMetersPerSecond
    currentGear := initial.currentGear
    ambientPressureKpaAbsolute := configuration.environment.ambientPressureKpaAbsolute
    manifoldPressureKpaAbsolute :=
      if initial.engineRunning then
        configuration.environment.ambientPressureKpaAbsolute *
          kIdleManifoldPressureFractionOfAmbient
      else configuration.environment.ambientPressureKpaAbsolute
    requestedBoostKpaGauge := 0
    coolantTemperatureCelsius := initial.coolantTemperatureCelsius
    oilTemperatureCelsius := initial.oilTemperatureCelsius
    intakeAirTemperatureCelsius := initial.intakeAirTemperatureCelsius
    lambda := kIdleLambda
    ignitionAdvanceDegrees := kIdleIgnitionAdvanceDegrees
    timingCorrectionDegrees := 0
    batteryVoltageVolts := initial.batteryVoltageVolts }

/-- `apply_scenario_inputs`. -/
def applyScenarioInputs (state : VehicleState) (inputs : ScenarioInputs) : VehicleState :=
  { state with
    acceleratorPedalPosition := inputs.acceleratorPedalPosition
    requestedScenarioLoad := inputs.requestedScenarioLoad
    ambientPressureKpaAbsolute := inputs.environment.ambientPressureKpaAbsolute }

section Exponential

variable (exp : ℚ → ℚ)

/-- `approach`. -/
def approach (current target timeConstantSeconds deltaTimeSeconds : ℚ) : ℚ :=
  let retainedDifference := exp (-deltaTimeSeconds / timeConstantSeconds)
  target + (current - target) * retainedDifference

/-- The block of `evolve_vehicle_state` for a stopped engine. -/
def evolveStoppedEngine (state : VehicleState) (inputs : ScenarioInputs) (deltaTimeSeconds : ℚ) :
    VehicleState :=
  { state with
    engineSpeedRpm := 0
    engineLoad := 0
    throttlePosition := 0
    manifoldPressureKpaAbsolute := inputs.environment.ambientPressureKpaAbsolute
    requestedBoostKpaGauge := 0
    intakeAirTemperatureCelsius := approach exp state.intakeAirTemperatureCelsius
      inputs.environment.ambientTemperatureCelsius kIntakeAirTimeConstantSeconds deltaTimeSeconds
    batteryVoltageVolts := approach exp state.batteryVoltageVolts kRestingBatteryVoltageVolts
      kBatteryVoltageTimeConstantSeconds deltaTimeSeconds
    lambda := kIdleLambda
    ignitionAdvanceDegrees := kIdleIgnitionAdvanceDegrees
    timingCorrectionDegrees := 0 }

/-- The `kCity` block of `evolve_vehicle_state`. -/
def evolveCity (state : VehicleState) (inputs : ScenarioInputs) (profile : VehicleProfile)
    (deltaTimeSeconds : ℚ) : VehicleState :=
  let drivetrain := evolveCityDrivetrain state.vehicleSpeedMetersPerSecond
    inputs.acceleratorPedalPosition inputs.commandVehicleStationary deltaTimeSeconds profile
  let loadAboveIdle := clamp ((inputs.requestedScenarioLoad - kIdleRequestedScenarioLoad) /
    (1 - kIdleRequestedScenarioLoad)) 0 1
  let manifoldPressureFraction := kIdleManifoldPressureFractionOfAmbient +
    (kCityMaximumManifoldPressureFractionOfAmbient - kIdleManifoldPressureFractionOfAmbient) *
      loadAboveIdle
  { state with
    vehicleSpeedMetersPerSecond := drivetrain.vehicleSpeedMetersPerSecond
    currentGear := drivetrain.selectedGear
    engineSpeedRpm := drivetrain.engineSpeedRpm
    engineLoad := clamp (kCityEngineLoadOffset + inputs.requestedScenarioLoad) 0 1
    throttlePosition := clamp (kIdleThrottlePosition +
      kCityThrottlePerAccelerator * inputs.acceleratorPedalPosition) 0 1
    manifoldPressureKpaAbsolute :=
      inputs.environment.ambientPressureKpaAbsolute * manifoldPressureFraction }

/-- The `kWideOpenThrottlePull` block of `evolve_vehicle_state`. -/
def evolveWideOpenThrottlePull (state : VehicleState) (inputs : ScenarioInputs)
    (profile : VehicleProfile) (calibration : CalibrationProfile) (deltaTimeSeconds : ℚ) :
    VehicleState :=
  let calibratedDemand := calibration.throttleResponse.lookup inputs.acceleratorPedalPosition
  let engineLoad :=
    clamp (kCityEngineLoadOffset + max calibratedDemand inputs.requestedScenarioLoad) 0 1
  let throttlePosition :=
    clamp (kIdleThrottlePosition + (1 - kIdleThrottlePosition) * calibratedDemand) 0 1
  let boostTarget :=
    if 0.20 ≤ inputs.acceleratorPedalPosition ∧ 0.30 < engineLoad then
      calibration.boostTargetKpaGauge.lookup state.engineSpeedRpm engineLoad
    else 0
  let actualBoost := approach exp state.actualBoostKpaGauge boostTarget
    calibration.boostResponseTimeConstantSeconds deltaTimeSeconds
  let normalizedOutput := calibratedDemand * calibration.engineOutputMultiplier *
    (1 + 0.35 * max 0 actualBoost / max 1 inputs.environment.ambientPressureKpaAbsolute)
  let drivetrain := evolveWotPullDrivetrain state.vehicleSpeedMetersPerSecond normalizedOutput
    deltaTimeSeconds profile
  { state with
    engineLoad
    throttlePosition
    requestedBoostKpaGauge := boostTarget
    manifoldPressureKpaAbsolute :=
      max 0 (inputs.environment.ambientPressureKpaAbsolute + actualBoost)
    vehicleSpeedMetersPerSecond := drivetrain.vehicleSpeedMetersPerSecond
    currentGear := drivetrain.selectedGear
    engineSpeedRpm := drivetrain.engineSpeedRpm
    lambda := approach exp state.lambda (calibration.lambdaTarget.lookup engineLoad)
      kWotPullLambdaTimeConstantSeconds deltaTimeSeconds
    ignitionAdvanceDegrees := approach exp state.ignitionAdvanceDegrees
      (calibration.ignitionTargetDegrees.lookup drivetrain.engineSpeedRpm engineLoad)
      kWotPullIgnitionTimeConstantSeconds deltaTimeSeconds }

/-- The block of `evolve_vehicle_state` for the scenarios in which the vehicle stands. -/
def evolveStationary (state : VehicleState) (inputs : ScenarioInputs) (deltaTimeSeconds : ℚ) :
    VehicleState :=
  let startupFraction := coldStartFraction inputs.requestedScenarioLoad
  let engineSpeedTarget :=
    kIdleTargetRpm + (kColdStartElevatedRpmTarget - kIdleTargetRpm) * startupFraction
  let rpmTimeConstant :=
    if 0 < startupFraction then kColdStartRpmResponseTimeConstantSeconds
    else kIdleRpmTimeConstantSeconds
  { state with
    vehicleSpeedMetersPerSecond := 0
    currentGear := 0
    engineSpeedRpm := approach exp state.engineSpeedRpm engineSpeedTarget rpmTimeConstant
      deltaTimeSeconds
    engineLoad := kIdleEngineLoad + kColdStartEngineLoadIncrease * startupFraction
    throttlePosition := kIdleThrottlePosition + kColdStartThrottleIncrease * startupFraction
    manifoldPressureKpaAbsolute := inputs.environment.ambientPressureKpaAbsolute *
      kIdleManifoldPressureFractionOfAmbient }

/-- The end of `evolve_vehicle_state` for a running engine: temperatures, combustion and
charging. -/
def evolveRunningEngine (state : VehicleState) (inputs : ScenarioInputs) (scenario : ScenarioId)
    (activeFaults : ActiveFaults) (deltaTimeSeconds : ℚ) : VehicleState :=
  let isWotPull := scenario = .wideOpenThrottlePull
  let coolantEquilibrium :=
    if activeFaults.coolingSystemDegradation then kDegradedCoolingEquilibriumCelsius
    else kCoolantIdleEquilibriumCelsius
  let coolantTimeConstant :=
    if activeFaults.coolingSystemDegradation then kDegradedCoolingTimeConstantSeconds
    else kCoolantWarmupTimeConstantSeconds
  let boostHeating :=
    if isWotPull then
      max 0 state.actualBoostKpaGauge * kWotPullIntakeAirBoostHeatingCelsiusPerKpa
    else 0
  let intakeAirEquilibrium := inputs.environment.ambientTemperatureCelsius +
    kIntakeAirAboveAmbientAtIdleCelsius + boostHeating
  let chargingTarget :=
    if activeFaults.chargingSystemFailure then kFailedChargingVoltageVolts
    else kChargingVoltageVolts
  let chargingTimeConstant :=
    if activeFaults.chargingSystemFailure then kFailedChargingTimeConstantSeconds
    else kBatteryVoltageTimeConstantSeconds
  { state with
    requestedBoostKpaGauge := if isWotPull then state.requestedBoostKpaGauge else 0
    coolantTemperatureCelsius := approach exp state.coolantTemperatureCelsius coolantEquilibrium
      coolantTimeConstant deltaTimeSeconds
    oilTemperatureCelsius := approach exp state.oilTemperatureCelsius kOilIdleEquilibriumCelsius
      kOilWarmupTimeConstantSeconds deltaTimeSeconds
    intakeAirTemperatureCelsius := approach exp state.intakeAirTemperatureCelsius
      intakeAirEquilibrium kIntakeAirTimeConstantSeconds deltaTimeSeconds
    lambda := if isWotPull then state.lambda else kIdleLambda
    ignitionAdvanceDegrees :=
      if isWotPull then state.ignitionAdvanceDegrees else kIdleIgnitionAdvanceDegrees
    timingCorrectionDegrees := 0
    batteryVoltageVolts := approach exp state.batteryVoltageVolts chargingTarget
      chargingTimeConstant deltaTimeSeconds }

/-- The beginning of `evolve_vehicle_state`: the inputs are applied and a requested start is
made. -/
def startedState (state : VehicleState) (inputs : ScenarioInputs) : VehicleState :=
  { applyScenarioInputs state inputs with
    engineRunning := state.engineRunning || inputs.engineStartRequested }

/-- The choice of `evolve_vehicle_state` between the scenarios of a running engine. -/
def evolveScenario (state : VehicleState) (inputs : ScenarioInputs) (scenario : ScenarioId)
    (profile : VehicleProfile) (calibration : CalibrationProfile) (deltaTimeSeconds : ℚ) :
    VehicleState :=
  match scenario with
  | .city => evolveCity state inputs profile deltaTimeSeconds
  | .wideOpenThrottlePull =>
    evolveWideOpenThrottlePull exp state inputs profile calibration deltaTimeSeconds
  | _ => evolveStationary exp state inputs deltaTimeSeconds

/-- `evolve_vehicle_state`. -/
def evolveVehicleState (state : VehicleState) (inputs : ScenarioInputs) (scenario : ScenarioId)
    (profile : VehicleProfile) (calibration : CalibrationProfile) (activeFaults : ActiveFaults)
    (deltaTimeSeconds : ℚ) : VehicleState :=
  let state := startedState state inputs
  if state.engineRunning = false then evolveStoppedEngine exp state inputs deltaTimeSeconds
  else
    let state := evolveScenario exp state inputs scenario profile calibration deltaTimeSeconds
    evolveRunningEngine exp state inputs scenario activeFaults deltaTimeSeconds

section Engine

variable {state : VehicleState} {inputs : ScenarioInputs} {scenario : ScenarioId}
  {profile : VehicleProfile} {calibration : CalibrationProfile} {activeFaults : ActiveFaults}
  {deltaTimeSeconds : ℚ}

theorem evolveVehicleState_of_stopped (h : (startedState state inputs).engineRunning = false) :
    evolveVehicleState exp state inputs scenario profile calibration activeFaults
        deltaTimeSeconds =
      evolveStoppedEngine exp (startedState state inputs) inputs deltaTimeSeconds :=
  if_pos h

theorem evolveVehicleState_of_running (h : (startedState state inputs).engineRunning = true) :
    evolveVehicleState exp state inputs scenario profile calibration activeFaults
        deltaTimeSeconds =
      evolveRunningEngine exp (evolveScenario exp (startedState state inputs) inputs scenario
        profile calibration deltaTimeSeconds) inputs scenario activeFaults deltaTimeSeconds :=
  if_neg (by rw [h]; decide)

end Engine

/-- The run state is passed on and read nowhere. -/
theorem evolveVehicleState_runState (state : VehicleState) (runState : SimulationRunState)
    (inputs : ScenarioInputs) (scenario : ScenarioId) (profile : VehicleProfile)
    (calibration : CalibrationProfile) (activeFaults : ActiveFaults) (deltaTimeSeconds : ℚ) :
    evolveVehicleState exp { state with runState } inputs scenario profile calibration activeFaults
        deltaTimeSeconds =
      { evolveVehicleState exp state inputs scenario profile calibration activeFaults
          deltaTimeSeconds with runState } := by
  cases hengine : (startedState state inputs).engineRunning with
  | false =>
    rw [evolveVehicleState_of_stopped exp hengine, evolveVehicleState_of_stopped exp]
    · rfl
    · exact hengine
  | true =>
    rw [evolveVehicleState_of_running exp hengine, evolveVehicleState_of_running exp]
    · cases scenario <;> rfl
    · exact hengine

end Exponential

end TunerOs
