-- SUMMARY: While its faults are not active yet, a vehicle that starts within the limits of the diagnostic rules stays within them.
import TunerOs.Ecu.FaultIsolation
import TunerOs.Simulator.Lookup
import TunerOs.Simulator.StateValidity

/-!
# Nominal runs

What one step does to the fields that the diagnostic rules read, and the limits that
these fields keep until a fault that acts on them is activated.
-/

namespace TunerOs

/-! ## Bounds of a table -/

section Tables

variable {table : Table2D} {bound : ℚ}

/-- A cell that a lookup reads is one of the table's values. -/
theorem Table2D.cell_mem {row column : ℕ} (hrow : row < table.rowAxis.breakpoints.length)
    (hcolumn : column < table.columnAxis.breakpoints.length) :
    table.values.getD (row * table.columnAxis.breakpoints.length + column) 0 ∈ table.values := by
  have hindex := table.cell_lt hrow hcolumn
  rw [List.getD_eq_getElem _ _ hindex]
  exact List.getElem_mem hindex

theorem Table2D.le_lookup (h : ∀ value ∈ table.values, bound ≤ value) (row column : ℚ) :
    bound ≤ table.lookup row column := by
  obtain ⟨hr0, hr1, hrow0, hrow1⟩ := intervalFor_spec table.rowAxis.two_le_length row
  obtain ⟨hc0, hc1, hcolumn0, hcolumn1⟩ := intervalFor_spec table.columnAxis.two_le_length column
  refine le_interpolate (le_interpolate ?_ ?_ hcolumn0 hcolumn1)
    (le_interpolate ?_ ?_ hcolumn0 hcolumn1) hrow0 hrow1
  · exact h _ (Table2D.cell_mem hr0 hc0)
  · exact h _ (Table2D.cell_mem hr0 hc1)
  · exact h _ (Table2D.cell_mem hr1 hc0)
  · exact h _ (Table2D.cell_mem hr1 hc1)

theorem Table2D.lookup_le (h : ∀ value ∈ table.values, value ≤ bound) (row column : ℚ) :
    table.lookup row column ≤ bound := by
  obtain ⟨hr0, hr1, hrow0, hrow1⟩ := intervalFor_spec table.rowAxis.two_le_length row
  obtain ⟨hc0, hc1, hcolumn0, hcolumn1⟩ := intervalFor_spec table.columnAxis.two_le_length column
  refine interpolate_le (interpolate_le ?_ ?_ hcolumn0 hcolumn1)
    (interpolate_le ?_ ?_ hcolumn0 hcolumn1) hrow0 hrow1
  · exact h _ (Table2D.cell_mem hr0 hc0)
  · exact h _ (Table2D.cell_mem hr0 hc1)
  · exact h _ (Table2D.cell_mem hr1 hc0)
  · exact h _ (Table2D.cell_mem hr1 hc1)

end Tables

/-- The greatest boost target of the profiles. -/
def maximumBoostTargetKpaGauge : ℚ := 125

theorem boostTarget_mem (id : CalibrationId) (engineSpeed load : ℚ) :
    0 ≤ (calibrationProfile id).boostTargetKpaGauge.lookup engineSpeed load ∧
      (calibrationProfile id).boostTargetKpaGauge.lookup engineSpeed load ≤
        maximumBoostTargetKpaGauge := by
  have hvalues : ∀ value ∈ (calibrationProfile id).boostTargetKpaGauge.values,
      0 ≤ value ∧ value ≤ maximumBoostTargetKpaGauge := by
    cases id <;> decide +kernel
  exact ⟨Table2D.le_lookup (fun value hmem => (hvalues value hmem).1) _ _,
    Table2D.lookup_le (fun value hmem => (hvalues value hmem).2) _ _⟩

/-! ## One step -/

section Step

variable (exp : ℚ → ℚ) {simulation : VehicleSimulation} {inputs : ScenarioInputs}
  (timestamp : UInt64)

/-- The length of a step in seconds. -/
def VehicleSimulation.deltaTimeSeconds (simulation : VehicleSimulation) : ℚ :=
  (simulation.clock.fixedStep.toNat : ℚ) / kMicrosecondsPerSecond

/-- What a step does to the fields that the rules read, when the engine is off. -/
theorem nextState_of_stopped (h : (startedState simulation.state inputs).engineRunning = false) :
    (simulation.nextState exp inputs timestamp).engineRunning = false ∧
      (simulation.nextState exp inputs timestamp).coolantTemperatureCelsius =
        simulation.state.coolantTemperatureCelsius ∧
      (simulation.nextState exp inputs timestamp).oilTemperatureCelsius =
        simulation.state.oilTemperatureCelsius ∧
      (simulation.nextState exp inputs timestamp).batteryVoltageVolts =
        approach exp simulation.state.batteryVoltageVolts kRestingBatteryVoltageVolts
          kBatteryVoltageTimeConstantSeconds simulation.deltaTimeSeconds ∧
      (simulation.nextState exp inputs timestamp).manifoldPressureKpaAbsolute =
        inputs.environment.ambientPressureKpaAbsolute := by
  rw [VehicleSimulation.nextState, evolveVehicleState_of_stopped exp h]
  exact ⟨h, rfl, rfl, rfl, rfl⟩

/-- The same when it is running. -/
theorem nextState_of_running (h : (startedState simulation.state inputs).engineRunning = true) :
    let active := activeFaultsAt simulation.configuration.faults timestamp
    (simulation.nextState exp inputs timestamp).engineRunning = true ∧
      (simulation.nextState exp inputs timestamp).coolantTemperatureCelsius =
        approach exp simulation.state.coolantTemperatureCelsius
          (if active.coolingSystemDegradation then kDegradedCoolingEquilibriumCelsius
            else kCoolantIdleEquilibriumCelsius)
          (if active.coolingSystemDegradation then kDegradedCoolingTimeConstantSeconds
            else kCoolantWarmupTimeConstantSeconds) simulation.deltaTimeSeconds ∧
      (simulation.nextState exp inputs timestamp).oilTemperatureCelsius =
        approach exp simulation.state.oilTemperatureCelsius kOilIdleEquilibriumCelsius
          kOilWarmupTimeConstantSeconds simulation.deltaTimeSeconds ∧
      (simulation.nextState exp inputs timestamp).batteryVoltageVolts =
        approach exp simulation.state.batteryVoltageVolts
          (if active.chargingSystemFailure then kFailedChargingVoltageVolts
            else kChargingVoltageVolts)
          (if active.chargingSystemFailure then kFailedChargingTimeConstantSeconds
            else kBatteryVoltageTimeConstantSeconds) simulation.deltaTimeSeconds ∧
      (simulation.nextState exp inputs timestamp).manifoldPressureKpaAbsolute =
        (evolveScenario exp (startedState simulation.state inputs) inputs
          simulation.configuration.scenario simulation.configuration.vehicleProfile
          (calibrationProfile simulation.configuration.calibration)
          simulation.deltaTimeSeconds).manifoldPressureKpaAbsolute := by
  intro active
  rw [VehicleSimulation.nextState, evolveVehicleState_of_running exp h]
  cases simulation.configuration.scenario <;> exact ⟨h, rfl, rfl, rfl, rfl⟩

end Step

/-! ## Limits -/

/-- No fault with this ID is activated by then. -/
def NotYet (faults : List FaultConfiguration) (id : FaultId) (timestamp : UInt64) : Prop :=
  ∀ fault ∈ faults, fault.id = id → timestamp < fault.activationTime

theorem NotYet.inactive {faults : List FaultConfiguration} {id : FaultId} {timestamp : UInt64}
    (h : NotYet faults id timestamp) : (activeFaultsAt faults timestamp).has id = false := by
  rw [Bool.eq_false_iff, Ne, activeFaultsAt_has]
  rintro ⟨fault, hmem, hid, hactive⟩
  exact absurd hactive.1 (UInt64.not_le.2 (h fault hmem hid))

theorem NotYet.earlier {faults : List FaultConfiguration} {id : FaultId}
    {earlier timestamp : UInt64} (h : NotYet faults id timestamp)
    (hle : earlier.toNat ≤ timestamp.toNat) : NotYet faults id earlier := by
  intro fault hmem hid
  have hlater := UInt64.lt_iff_toNat_lt.1 (h fault hmem hid)
  exact UInt64.lt_iff_toNat_lt.2 (by omega)

/-- The vehicle starts within the limits of the diagnostic rules, at a pressure that leaves the
boost of every profile within them. -/
structure SimulationRunConfiguration.StartsNominal (configuration : SimulationRunConfiguration) :
    Prop where
  coolant : configuration.initialConditions.coolantTemperatureCelsius ≤ 115
  oil : configuration.initialConditions.oilTemperatureCelsius ≤ 135
  battery : 12.5 ≤ configuration.initialConditions.batteryVoltageVolts
  ambientLow : 25 ≤ configuration.environment.ambientPressureKpaAbsolute
  ambientHigh : configuration.environment.ambientPressureKpaAbsolute ≤ 125

/-- The manifold pressure is between the idle one and the greatest boost. -/
structure VehicleState.PressureFits (state : VehicleState)
    (configuration : SimulationRunConfiguration) : Prop where
  low : configuration.environment.ambientPressureKpaAbsolute *
    kIdleManifoldPressureFractionOfAmbient ≤ state.manifoldPressureKpaAbsolute
  high : state.manifoldPressureKpaAbsolute ≤
    configuration.environment.ambientPressureKpaAbsolute + maximumBoostTargetKpaGauge

/-- The fields that rules read are within their limits, unless a fault acts on them by now. -/
structure VehicleState.Nominal (state : VehicleState) (configuration : SimulationRunConfiguration) :
    Prop where
  coolant : NotYet configuration.faults .coolingSystemDegradation state.timestamp →
    state.coolantTemperatureCelsius ≤ 115
  oil : state.oilTemperatureCelsius ≤ 135
  battery : NotYet configuration.faults .chargingSystemFailure state.timestamp →
    12.5 ≤ state.batteryVoltageVolts
  pressure : state.PressureFits configuration

section Nominal

variable {exp : ℚ → ℚ} {simulation : VehicleSimulation} {inputs : ScenarioInputs}
  {configuration : SimulationRunConfiguration} {timestamp : UInt64}

theorem requestedBoost_mem (exp : ℚ → ℚ) (state : VehicleState) (inputs : ScenarioInputs)
    (profile : VehicleProfile) (id : CalibrationId) (deltaTime : ℚ) :
    0 ≤ (evolveWideOpenThrottlePull exp state inputs profile (calibrationProfile id)
        deltaTime).requestedBoostKpaGauge ∧
      (evolveWideOpenThrottlePull exp state inputs profile (calibrationProfile id)
        deltaTime).requestedBoostKpaGauge ≤ maximumBoostTargetKpaGauge := by
  simp only [evolveWideOpenThrottlePull]
  split
  · exact boostTarget_mem id _ _
  · exact ⟨le_rfl, by norm_num [maximumBoostTargetKpaGauge]⟩

/-- The block of a scenario keeps the pressure between the idle one and the greatest boost. -/
theorem evolveScenario_pressure (hexp : IsFactor exp) (state : VehicleState)
    {environment : EnvironmentState} {deltaTime : ℚ} (hdelta : 0 < deltaTime)
    (hnonneg : 0 ≤ environment.ambientPressureKpaAbsolute)
    (hwell : inputs.WellFormed environment)
    (hambient : state.ambientPressureKpaAbsolute = environment.ambientPressureKpaAbsolute)
    (hlow : environment.ambientPressureKpaAbsolute * kIdleManifoldPressureFractionOfAmbient ≤
      state.manifoldPressureKpaAbsolute)
    (hhigh : state.manifoldPressureKpaAbsolute ≤
      environment.ambientPressureKpaAbsolute + maximumBoostTargetKpaGauge)
    (scenario : ScenarioId) (profile : VehicleProfile) (id : CalibrationId) :
    environment.ambientPressureKpaAbsolute * kIdleManifoldPressureFractionOfAmbient ≤
        (evolveScenario exp state inputs scenario profile (calibrationProfile id)
          deltaTime).manifoldPressureKpaAbsolute ∧
      (evolveScenario exp state inputs scenario profile (calibrationProfile id)
          deltaTime).manifoldPressureKpaAbsolute ≤
        environment.ambientPressureKpaAbsolute + maximumBoostTargetKpaGauge := by
  have hboost : (0 : ℚ) ≤ maximumBoostTargetKpaGauge := by norm_num [maximumBoostTargetKpaGauge]
  have hstanding : environment.ambientPressureKpaAbsolute * kIdleManifoldPressureFractionOfAmbient ≤
      environment.ambientPressureKpaAbsolute :=
    mul_le_of_le_one_right hnonneg (by norm_num [kIdleManifoldPressureFractionOfAmbient])
  unfold evolveScenario
  split
  · -- CITY: a fraction of the ambient pressure between the idle one and all of it
    obtain ⟨hzero, hone⟩ := isNormalized_clamp ((inputs.requestedScenarioLoad -
      kIdleRequestedScenarioLoad) / (1 - kIdleRequestedScenarioLoad))
    simp only [evolveCity, hwell.environment, kIdleManifoldPressureFractionOfAmbient,
      kCityMaximumManifoldPressureFractionOfAmbient]
    constructor
    · gcongr
      linarith
    · refine (mul_le_of_le_one_right hnonneg ?_).trans (le_add_of_nonneg_right hboost)
      linarith
  · -- WOT_PULL: the boost approaches a target between zero and the greatest one
    have hconstant : 0 < (calibrationProfile id).boostResponseTimeConstantSeconds := by
      cases id <;> norm_num [calibrationProfile, makeStockProfile, makeStage1Profile]
    obtain ⟨htarget, htargetHigh⟩ := requestedBoost_mem exp state inputs profile id deltaTime
    have hactual : environment.ambientPressureKpaAbsolute * kIdleManifoldPressureFractionOfAmbient -
        environment.ambientPressureKpaAbsolute ≤ state.actualBoostKpaGauge := by
      rw [VehicleState.actualBoostKpaGauge, hambient]
      linarith
    have hactualHigh : state.actualBoostKpaGauge ≤ maximumBoostTargetKpaGauge := by
      rw [VehicleState.actualBoostKpaGauge, hambient]
      linarith
    have hfrom := le_approach hexp hdelta hconstant hactual (by linarith : _ ≤
      (evolveWideOpenThrottlePull exp state inputs profile (calibrationProfile id)
        deltaTime).requestedBoostKpaGauge)
    have hto := approach_le hexp hdelta hconstant hactualHigh htargetHigh
    have hpressure : (evolveWideOpenThrottlePull exp state inputs profile (calibrationProfile id)
        deltaTime).manifoldPressureKpaAbsolute = max 0 (environment.ambientPressureKpaAbsolute +
          approach exp state.actualBoostKpaGauge (evolveWideOpenThrottlePull exp state inputs profile
            (calibrationProfile id) deltaTime).requestedBoostKpaGauge
            (calibrationProfile id).boostResponseTimeConstantSeconds deltaTime) := by
      rw [← hwell.environment]
      rfl
    rw [hpressure]
    exact ⟨le_max_of_le_right (by linarith), max_le (by linarith) (by linarith)⟩
  · simp only [evolveStationary, hwell.environment]
    exact ⟨le_rfl, hstanding.trans (le_add_of_nonneg_right hboost)⟩

theorem ambientPressure_nonneg_of_accepted (h : configuration.IsAccepted) :
    0 ≤ configuration.environment.ambientPressureKpaAbsolute ∧
      configuration.environment.ambientPressureKpaAbsolute *
        kIdleManifoldPressureFractionOfAmbient ≤
          configuration.environment.ambientPressureKpaAbsolute := by
  have hnonneg : 0 ≤ configuration.environment.ambientPressureKpaAbsolute := h.environment
  exact ⟨hnonneg,
    mul_le_of_le_one_right hnonneg (by norm_num [kIdleManifoldPressureFractionOfAmbient])⟩

/-- A step keeps the manifold pressure where it fits. -/
theorem VehicleState.PressureFits.nextState (hexp : IsFactor exp)
    (hconsistent : simulation.Consistent)
    (hfits : simulation.state.PressureFits simulation.configuration)
    (hwell : inputs.WellFormed simulation.configuration.environment) (timestamp : UInt64) :
    (simulation.nextState exp inputs timestamp).PressureFits simulation.configuration := by
  obtain ⟨hnonneg, hstanding⟩ := ambientPressure_nonneg_of_accepted hconsistent.accepted
  cases hengine : (startedState simulation.state inputs).engineRunning with
  | false =>
    obtain ⟨-, -, -, -, hpressure⟩ := nextState_of_stopped exp timestamp hengine
    rw [hwell.environment] at hpressure
    constructor <;> rw [hpressure]
    · exact hstanding
    · exact le_add_of_nonneg_right (by norm_num [maximumBoostTargetKpaGauge])
  | true =>
    obtain ⟨-, -, -, -, hpressure⟩ := nextState_of_running exp timestamp hengine
    obtain ⟨hlow, hhigh⟩ := evolveScenario_pressure hexp
      (startedState simulation.state inputs) (deltaTime_pos hconsistent) hnonneg hwell
      (congrArg EnvironmentState.ambientPressureKpaAbsolute hwell.environment) hfits.low
      hfits.high simulation.configuration.scenario
      simulation.configuration.vehicleProfile simulation.configuration.calibration
    constructor <;> rw [hpressure]
    · exact hlow
    · exact hhigh

/-- A step keeps the fields within their limits. -/
theorem VehicleState.Nominal.nextState (hexp : IsFactor exp) (hconsistent : simulation.Consistent)
    (hnominal : simulation.state.Nominal simulation.configuration)
    (hwell : inputs.WellFormed simulation.configuration.environment)
    (hlater : simulation.state.timestamp.toNat ≤ timestamp.toNat) :
    (simulation.nextState exp inputs timestamp).Nominal simulation.configuration := by
  have hdelta : 0 < simulation.deltaTimeSeconds := deltaTime_pos hconsistent
  have hpressure := hnominal.pressure.nextState hexp hconsistent hwell timestamp
  cases hengine : (startedState simulation.state inputs).engineRunning with
  | false =>
    obtain ⟨-, hcoolant, hoil, hbattery, -⟩ :=
      nextState_of_stopped exp timestamp hengine
    refine ⟨fun hyet => ?_, ?_, fun hyet => ?_, hpressure⟩
    · rw [hcoolant]
      exact hnominal.coolant (hyet.earlier hlater)
    · rw [hoil]
      exact hnominal.oil
    · rw [hbattery]
      exact le_approach hexp hdelta (by norm_num [kBatteryVoltageTimeConstantSeconds])
        (hnominal.battery (hyet.earlier hlater)) (by norm_num [kRestingBatteryVoltageVolts])
  | true =>
    obtain ⟨-, hcoolant, hoil, hbattery, -⟩ :=
      nextState_of_running exp timestamp hengine
    refine ⟨fun hyet => ?_, ?_, fun hyet => ?_, hpressure⟩
    · have hinactive : (activeFaultsAt simulation.configuration.faults
          timestamp).coolingSystemDegradation = false := hyet.inactive
      rw [hcoolant, hinactive, if_neg Bool.false_ne_true, if_neg Bool.false_ne_true]
      exact approach_le hexp hdelta (by norm_num [kCoolantWarmupTimeConstantSeconds])
        (hnominal.coolant (hyet.earlier hlater)) (by norm_num [kCoolantIdleEquilibriumCelsius])
    · rw [hoil]
      exact approach_le hexp hdelta (by norm_num [kOilWarmupTimeConstantSeconds]) hnominal.oil
        (by norm_num [kOilIdleEquilibriumCelsius])
    · have hinactive : (activeFaultsAt simulation.configuration.faults
          timestamp).chargingSystemFailure = false := hyet.inactive
      rw [hbattery, hinactive, if_neg Bool.false_ne_true, if_neg Bool.false_ne_true]
      exact le_approach hexp hdelta (by norm_num [kBatteryVoltageTimeConstantSeconds])
        (hnominal.battery (hyet.earlier hlater)) (by norm_num [kChargingVoltageVolts])

/-- The state that a run starts from is within the limits. -/
theorem pressureFits_initial {state : VehicleState} (haccepted : configuration.IsAccepted)
    (hmake : makeInitialState configuration = .ok state) : state.PressureFits configuration := by
  obtain ⟨-, hstanding⟩ := ambientPressure_nonneg_of_accepted haccepted
  have hboost : (0 : ℚ) ≤ maximumBoostTargetKpaGauge := by norm_num [maximumBoostTargetKpaGauge]
  unfold makeInitialState at hmake
  cases hinputs : scenarioInputsFor configuration.scenario 0 configuration.environment with
  | error e =>
    rw [hinputs] at hmake
    cases hmake
  | ok inputs =>
    rw [hinputs] at hmake
    cases hmake
    constructor <;> simp only
    · split
      · exact le_rfl
      · exact hstanding
    · split
      · exact hstanding.trans (le_add_of_nonneg_right hboost)
      · exact le_add_of_nonneg_right hboost

theorem nominal_initial {state : VehicleState} (haccepted : configuration.IsAccepted)
    (hmake : makeInitialState configuration = .ok state) (hstarts : configuration.StartsNominal) :
    state.Nominal configuration := by
  have hpressure := pressureFits_initial haccepted hmake
  unfold makeInitialState at hmake
  cases hinputs : scenarioInputsFor configuration.scenario 0 configuration.environment with
  | error e =>
    rw [hinputs] at hmake
    cases hmake
  | ok inputs =>
    rw [hinputs] at hmake
    cases hmake
    exact ⟨fun _ => hstarts.coolant, hstarts.oil, fun _ => hstarts.battery, hpressure⟩

end Nominal

end TunerOs
