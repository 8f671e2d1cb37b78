-- SUMMARY: What a scenario demands of the vehicle at a time.
import TunerOs.Exceptions
import TunerOs.Simulator.Contracts
import TunerOs.Simulator.Parameters
import Mathlib.Tactic.Linarith

/-!
# Scenarios

The inputs of a scenario depend on the simulation time only.
-/

namespace TunerOs

structure ScenarioInputs where
  acceleratorPedalPosition : ℚ := 0
  requestedScenarioLoad : ℚ := 0
  commandVehicleStationary : Bool := false
  engineStartRequested : Bool := false
  environment : EnvironmentState := {}
deriving DecidableEq

def unsupportedScenario : CppException := ⟨"scenario is not implemented in Phase 8B"⟩

/-- The `kColdStart` case of `scenario_inputs_for`. -/
def coldStartInputs (timestamp : UInt64) (environment : EnvironmentState) : ScenarioInputs :=
  if timestamp < kColdStartRequestTimestampMicroseconds then
    { commandVehicleStationary := true
      environment }
  else
    let elapsedSinceStart := timestamp - kColdStartRequestTimestampMicroseconds
    let elevatedFraction := 1 - min 1 ((elapsedSinceStart.toNat : ℚ) /
      kColdStartStabilizationDurationMicroseconds.toNat)
    { requestedScenarioLoad := kIdleRequestedScenarioLoad +
        (kColdStartElevatedRequestedScenarioLoad - kIdleRequestedScenarioLoad) * elevatedFraction
      commandVehicleStationary := true
      engineStartRequested := true
      environment }

/-- Pedal, load and stationary intent of the `kCity` case of `scenario_inputs_for`. -/
def cityDemand (timestamp : UInt64) : ℚ × ℚ × Bool :=
  if timestamp < kCityFirstDepartureTimestampMicroseconds then
    (0, kIdleRequestedScenarioLoad, true)
  else if timestamp < kCityFirstCruiseTimestampMicroseconds then
    (kCityFirstAccelerationAccelerator, kCityFirstAccelerationLoad, false)
  else if timestamp < kCityFirstDecelerationTimestampMicroseconds then
    (kCityFirstCruiseAccelerator, kCityFirstCruiseLoad, false)
  else if timestamp < kCityFirstStopIntentTimestampMicroseconds then
    (0, kIdleRequestedScenarioLoad, false)
  else if timestamp < kCitySecondDepartureTimestampMicroseconds then
    (0, kIdleRequestedScenarioLoad, true)
  else if timestamp < kCitySecondCruiseTimestampMicroseconds then
    (kCitySecondAccelerationAccelerator, kCitySecondAccelerationLoad, false)
  else if timestamp < kCityFinalDecelerationTimestampMicroseconds then
    (kCitySecondCruiseAccelerator, kCitySecondCruiseLoad, false)
  else if timestamp < kCityFinalStopIntentTimestampMicroseconds then
    (0, kIdleRequestedScenarioLoad, false)
  else (0, kIdleRequestedScenarioLoad, true)

/-- `scenario_inputs_for`. -/
def scenarioInputsFor (scenario : ScenarioId) (timestamp : UInt64)
    (environment : EnvironmentState) : Except CppException ScenarioInputs :=
  match scenario with
  | .idle | .warmup => .ok
    { requestedScenarioLoad := kIdleRequestedScenarioLoad
      commandVehicleStationary := true
      environment }
  | .coldStart => .ok (coldStartInputs timestamp environment)
  | .city =>
    let (accelerator, requestedLoad, stationaryIntent) := cityDemand timestamp
    .ok
      { acceleratorPedalPosition := accelerator
        requestedScenarioLoad := requestedLoad
        commandVehicleStationary := stationaryIntent
        environment }
  | .wideOpenThrottlePull =>
    if timestamp < kWotPullThrottleTimestampMicroseconds then .ok
      { acceleratorPedalPosition := kWotPullPreloadAccelerator
        requestedScenarioLoad := kWotPullPreloadRequestedLoad
        environment }
    else .ok
      { acceleratorPedalPosition := kWotPullAccelerator
        requestedScenarioLoad := kWotPullRequestedLoad
        environment }
  | _ => .error unsupportedScenario

/-- `is_supported`. -/
def ScenarioId.IsSupported (scenario : ScenarioId) : Prop :=
  scenario = .idle ∨ scenario = .coldStart ∨ scenario = .warmup ∨ scenario = .city ∨
    scenario = .wideOpenThrottlePull

instance (scenario : ScenarioId) : Decidable scenario.IsSupported :=
  inferInstanceAs (Decidable (_ ∨ _))

/-- What holds of the inputs at every time. -/
structure ScenarioInputs.WellFormed (inputs : ScenarioInputs) (environment : EnvironmentState) :
    Prop where
  acceleratorPedalPosition : IsNormalized inputs.acceleratorPedalPosition
  requestedScenarioLoad : IsNormalized inputs.requestedScenarioLoad
  environment : inputs.environment = environment

theorem coldStartInputs_wellFormed {timestamp : UInt64} {environment : EnvironmentState} :
    (coldStartInputs timestamp environment).WellFormed environment := by
  unfold coldStartInputs
  split
  · exact ⟨⟨le_rfl, zero_le_one⟩, ⟨le_rfl, zero_le_one⟩, rfl⟩
  · refine ⟨⟨le_rfl, zero_le_one⟩, ?_, rfl⟩
    have hnonneg : (0 : ℚ) ≤ ((timestamp - kColdStartRequestTimestampMicroseconds).toNat : ℚ) /
        (kColdStartStabilizationDurationMicroseconds.toNat : ℚ) :=
      div_nonneg (Nat.cast_nonneg _) (Nat.cast_nonneg _)
    have hmin := le_min zero_le_one hnonneg
    have hone : min 1 (((timestamp - kColdStartRequestTimestampMicroseconds).toNat : ℚ) /
        (kColdStartStabilizationDurationMicroseconds.toNat : ℚ)) ≤ 1 := min_le_left _ _
    simp only [IsNormalized, kIdleRequestedScenarioLoad, kColdStartElevatedRequestedScenarioLoad]
    constructor <;> linarith

theorem cityDemand_normalized (timestamp : UInt64) :
    IsNormalized (cityDemand timestamp).1 ∧ IsNormalized (cityDemand timestamp).2.1 := by
  unfold cityDemand
  split_ifs <;>
    norm_num [IsNormalized, kIdleRequestedScenarioLoad, kCityFirstAccelerationAccelerator,
      kCityFirstAccelerationLoad, kCityFirstCruiseAccelerator, kCityFirstCruiseLoad,
      kCitySecondAccelerationAccelerator, kCitySecondAccelerationLoad,
      kCitySecondCruiseAccelerator, kCitySecondCruiseLoad]

/-- A supported scenario has inputs at every time. -/
theorem scenarioInputsFor_returns {scenario : ScenarioId} (h : scenario.IsSupported)
    (timestamp : UInt64) (environment : EnvironmentState) :
    ∃ inputs, scenarioInputsFor scenario timestamp environment = .ok inputs ∧
      inputs.WellFormed environment := by
  have hidle : IsNormalized kIdleRequestedScenarioLoad := by
    norm_num [IsNormalized, kIdleRequestedScenarioLoad]
  obtain rfl | rfl | rfl | rfl | rfl := h
  · exact ⟨_, rfl, ⟨le_rfl, zero_le_one⟩, hidle, rfl⟩
  · exact ⟨_, rfl, coldStartInputs_wellFormed⟩
  · exact ⟨_, rfl, ⟨le_rfl, zero_le_one⟩, hidle, rfl⟩
  · obtain ⟨hpedal, hload⟩ := cityDemand_normalized timestamp
    exact ⟨_, rfl, hpedal, hload, rfl⟩
  · by_cases hearly : timestamp < kWotPullThrottleTimestampMicroseconds
    · refine ⟨_, if_pos hearly, ?_, ?_, rfl⟩ <;>
        norm_num [IsNormalized, kWotPullPreloadAccelerator, kWotPullPreloadRequestedLoad]
    · refine ⟨_, if_neg hearly, ?_, ?_, rfl⟩ <;>
        norm_num [IsNormalized, kWotPullAccelerator, kWotPullRequestedLoad]

end TunerOs
