-- SUMMARY: Which profiles keep every reached state valid: their redline and their gears must fit the model's constants.
import TunerOs.Simulator.RunInvariant

/-!
# Validity of the reached states

Each block of the evolution keeps a valid state valid if the profile fits: its redline
the engine speeds the model aims at, and its gears the speeds of the CITY schedule. The
constructor compares neither with the profile.
-/

namespace TunerOs

/-! ## First-order responses -/

/-- The factor that `std::exp` gives for a negative exponent. -/
def IsFactor (exp : ℚ → ℚ) : Prop := ∀ x < 0, 0 < exp x ∧ exp x < 1

theorem isFactor_reciprocal : IsFactor reciprocalDecay := by
  intro x hx
  have hpositive : 0 < 1 - x := by linarith
  exact ⟨one_div_pos.2 hpositive, (div_lt_one hpositive).2 (by linarith)⟩

section Approach

variable {exp : ℚ → ℚ} {bound current target timeConstant deltaTime : ℚ}

theorem IsFactor.retained (hexp : IsFactor exp) (hdelta : 0 < deltaTime)
    (hconstant : 0 < timeConstant) :
    0 < exp (-deltaTime / timeConstant) ∧ exp (-deltaTime / timeConstant) < 1 :=
  hexp _ (div_neg_of_neg_of_pos (neg_neg_of_pos hdelta) hconstant)

/-- A response stays above what is below both its value and its target. -/
theorem le_approach (hexp : IsFactor exp) (hdelta : 0 < deltaTime) (hconstant : 0 < timeConstant)
    (hcurrent : bound ≤ current) (htarget : bound ≤ target) :
    bound ≤ approach exp current target timeConstant deltaTime := by
  obtain ⟨hpos, hlt⟩ := hexp.retained hdelta hconstant
  have hfirst : 0 ≤ (current - bound) * exp (-deltaTime / timeConstant) :=
    mul_nonneg (sub_nonneg.2 hcurrent) hpos.le
  have hsecond : 0 ≤ (target - bound) * (1 - exp (-deltaTime / timeConstant)) :=
    mul_nonneg (sub_nonneg.2 htarget) (sub_nonneg.2 hlt.le)
  rw [approach]
  linarith

theorem approach_le (hexp : IsFactor exp) (hdelta : 0 < deltaTime) (hconstant : 0 < timeConstant)
    (hcurrent : current ≤ bound) (htarget : target ≤ bound) :
    approach exp current target timeConstant deltaTime ≤ bound := by
  obtain ⟨hpos, hlt⟩ := hexp.retained hdelta hconstant
  have hfirst : 0 ≤ (bound - current) * exp (-deltaTime / timeConstant) :=
    mul_nonneg (sub_nonneg.2 hcurrent) hpos.le
  have hsecond : 0 ≤ (bound - target) * (1 - exp (-deltaTime / timeConstant)) :=
    mul_nonneg (sub_nonneg.2 htarget) (sub_nonneg.2 hlt.le)
  rw [approach]
  linarith

theorem approach_pos (hexp : IsFactor exp) (hdelta : 0 < deltaTime) (hconstant : 0 < timeConstant)
    (hcurrent : 0 < current) (htarget : 0 < target) :
    0 < approach exp current target timeConstant deltaTime :=
  (lt_min hcurrent htarget).trans_le
    (le_approach hexp hdelta hconstant (min_le_left _ _) (min_le_right _ _))

end Approach

/-! ## The gears of CITY -/

/-- The speed at which CITY needs a gear that a profile with this many gears does not have. -/
def cityGearLimit (forwardGearCount : UInt8) : Option ℚ :=
  if forwardGearCount = 1 then some kCitySecondGearThresholdMetersPerSecond
  else if forwardGearCount = 2 then some kCityThirdGearThresholdMetersPerSecond
  else if forwardGearCount = 3 then some kCityFourthGearThresholdMetersPerSecond
  else none

/-- The gear of a speed is one of the profile's exactly when the speed is below the limit. -/
theorem cityGearForSpeed_le_iff {forwardGearCount : UInt8} (h : 1 ≤ forwardGearCount) (speed : ℚ) :
    (cityGearForSpeed speed false).toInt ≤ forwardGearCount.toNat ↔
      ∀ limit ∈ cityGearLimit forwardGearCount, speed < limit := by
  have hgear : (cityGearForSpeed speed false).toInt =
      if speed < 4.5 then 1 else if speed < 8 then 2 else if speed < 12 then 3 else 4 := by
    simp only [cityGearForSpeed, Bool.false_eq_true, false_and, if_false, apply_ite Int8.toInt]
    rfl
  have hlimit : cityGearLimit forwardGearCount =
      if forwardGearCount.toNat = 1 then some 4.5 else if forwardGearCount.toNat = 2 then some 8
      else if forwardGearCount.toNat = 3 then some 12 else none := by
    simp only [cityGearLimit, ← UInt8.toNat_inj]
    rfl
  have hcount : 1 ≤ forwardGearCount.toNat := h
  rw [hgear, hlimit]
  generalize forwardGearCount.toNat = count at hcount
  -- The limit of a gearbox is the speed at which the next gear is chosen; from four gears on, none is.
  obtain rfl | rfl | rfl | hmore : count = 1 ∨ count = 2 ∨ count = 3 ∨ 4 ≤ count := by omega
  · simp only [if_true, Option.mem_some_iff, forall_eq']
    split_ifs with h1 h2 h3
    · exact ⟨fun _ => h1, fun _ => le_rfl⟩
    all_goals exact ⟨fun hle => absurd hle (by decide), fun hlt => absurd hlt h1⟩
  · simp only [OfNat.ofNat_ne_one, if_true, if_false, Option.mem_some_iff, forall_eq']
    split_ifs with h1 h2 h3
    · exact ⟨fun _ => by linarith, fun _ => by decide⟩
    · exact ⟨fun _ => h2, fun _ => le_rfl⟩
    all_goals exact ⟨fun hle => absurd hle (by decide), fun hlt => absurd hlt h2⟩
  · simp only [OfNat.ofNat_ne_one, Nat.reduceEqDiff, if_true, if_false, Option.mem_some_iff,
      forall_eq']
    split_ifs with h1 h2 h3
    · exact ⟨fun _ => by linarith, fun _ => by decide⟩
    · exact ⟨fun _ => by linarith, fun _ => by decide⟩
    · exact ⟨fun _ => h3, fun _ => le_rfl⟩
    · exact ⟨fun hle => absurd hle (by decide), fun hlt => absurd hlt h3⟩
  · have hone : count ≠ 1 := by omega
    have htwo : count ≠ 2 := by omega
    have hthree : count ≠ 3 := by omega
    simp only [hone, htwo, hthree, if_false, Option.not_mem_none, false_implies, implies_true,
      iff_true]
    split_ifs <;> omega

theorem cityGearForSpeed_nonneg (speed : ℚ) (stationaryIntent : Bool) :
    0 ≤ (cityGearForSpeed speed stationaryIntent).toInt := by
  unfold cityGearForSpeed
  split_ifs <;> decide

/-- Only a standing vehicle is in neutral. -/
theorem cityGearForSpeed_pos {speed : ℚ} {stationaryIntent : Bool}
    (h : ¬ (stationaryIntent = true ∧ speed ≤ kCityStopSpeedEpsilonMetersPerSecond)) :
    0 < (cityGearForSpeed speed stationaryIntent).toInt := by
  unfold cityGearForSpeed
  rw [if_neg h]
  split_ifs <;> decide

/-- The stationary intent does not raise the gear. -/
theorem cityGearForSpeed_le (speed : ℚ) (stationaryIntent : Bool) :
    (cityGearForSpeed speed stationaryIntent).toInt ≤ (cityGearForSpeed speed false).toInt := by
  cases stationaryIntent with
  | false => exact le_rfl
  | true =>
    unfold cityGearForSpeed
    split_ifs <;> simp_all

/-! ## One step -/

/-- The engine speed that a standing vehicle aims at. -/
def stationaryTargetRpm (inputs : ScenarioInputs) : ℚ :=
  kIdleTargetRpm + (kColdStartElevatedRpmTarget - kIdleTargetRpm) *
    coldStartFraction inputs.requestedScenarioLoad

section Step

variable {exp : ℚ → ℚ} {state : VehicleState} {profile : VehicleProfile} {inputs : ScenarioInputs}
  {environment : EnvironmentState} {deltaTime : ℚ}

theorem coldStartFraction_mem (load : ℚ) : IsNormalized (coldStartFraction load) :=
  isNormalized_clamp _

theorem ambientPressure_nonneg (hinputs : inputs.WellFormed environment)
    (henvironment : environment.IsValid) : 0 ≤ inputs.environment.ambientPressureKpaAbsolute := by
  rw [hinputs.environment]
  exact henvironment

theorem startedState_isValid (h : state.IsValid profile) (hinputs : inputs.WellFormed environment)
    (henvironment : environment.IsValid) : (startedState state inputs).IsValid profile where
  validProfile := h.validProfile
  acceleratorPedalPosition := hinputs.acceleratorPedalPosition
  requestedScenarioLoad := hinputs.requestedScenarioLoad
  engineSpeed := h.engineSpeed
  stopped := by
    refine h.stopped.imp_left fun hrunning => ?_
    change (state.engineRunning || _) = true
    rw [hrunning, Bool.true_or]
  engineLoad := h.engineLoad
  throttlePosition := h.throttlePosition
  vehicleSpeed := h.vehicleSpeed
  gear := h.gear
  moving := by
    refine h.moving.imp_right fun ⟨hrunning, hgear⟩ => ⟨?_, hgear⟩
    change (state.engineRunning || _) = true
    rw [hrunning, Bool.true_or]
  ambientPressure := ambientPressure_nonneg hinputs henvironment
  manifoldPressure := h.manifoldPressure
  lambda := h.lambda
  timingCorrection := h.timingCorrection
  batteryVoltage := h.batteryVoltage

theorem evolveStoppedEngine_isValid (hexp : IsFactor exp) (hdelta : 0 < deltaTime)
    (h : state.IsValid profile) (hinputs : inputs.WellFormed environment)
    (henvironment : environment.IsValid) (hstopped : state.engineRunning = false) :
    (evolveStoppedEngine exp state inputs deltaTime).IsValid profile where
  validProfile := h.validProfile
  acceleratorPedalPosition := h.acceleratorPedalPosition
  requestedScenarioLoad := h.requestedScenarioLoad
  engineSpeed := ⟨le_rfl, h.engineSpeed.1.trans h.engineSpeed.2⟩
  stopped := .inr rfl
  engineLoad := ⟨le_rfl, zero_le_one⟩
  throttlePosition := ⟨le_rfl, zero_le_one⟩
  vehicleSpeed := h.vehicleSpeed
  gear := h.gear
  moving := .inl (h.moving.resolve_right fun hmoving => by
    rw [hstopped] at hmoving
    exact Bool.false_ne_true hmoving.1)
  ambientPressure := h.ambientPressure
  manifoldPressure := ambientPressure_nonneg hinputs henvironment
  lambda := by norm_num [evolveStoppedEngine, kIdleLambda]
  timingCorrection := le_rfl
  batteryVoltage := le_approach hexp hdelta (by norm_num [kBatteryVoltageTimeConstantSeconds])
    h.batteryVoltage (by norm_num [kRestingBatteryVoltageVolts])

/-- A standing vehicle stays valid if the redline is not below the engine speed it aims at. -/
theorem evolveStationary_isValid (hexp : IsFactor exp) (hdelta : 0 < deltaTime)
    (h : state.IsValid profile) (hinputs : inputs.WellFormed environment)
    (henvironment : environment.IsValid) (hrunning : state.engineRunning = true)
    (htarget : stationaryTargetRpm inputs ≤ profile.redlineRpm) :
    (evolveStationary exp state inputs deltaTime).IsValid profile where
  validProfile := h.validProfile
  acceleratorPedalPosition := h.acceleratorPedalPosition
  requestedScenarioLoad := h.requestedScenarioLoad
  engineSpeed := by
    have hconstant : 0 < (if 0 < coldStartFraction inputs.requestedScenarioLoad then
        kColdStartRpmResponseTimeConstantSeconds else kIdleRpmTimeConstantSeconds) := by
      split_ifs <;> norm_num [kColdStartRpmResponseTimeConstantSeconds, kIdleRpmTimeConstantSeconds]
    have hnonneg : 0 ≤ stationaryTargetRpm inputs := by
      have hfraction := (coldStartFraction_mem inputs.requestedScenarioLoad).1
      rw [stationaryTargetRpm, kIdleTargetRpm, kColdStartElevatedRpmTarget]
      linarith
    -- The engine speed moves toward its target, so it stays between the two bounds both respect.
    exact ⟨le_approach hexp hdelta hconstant h.engineSpeed.1 hnonneg,
      approach_le hexp hdelta hconstant h.engineSpeed.2 htarget⟩
  stopped := .inl hrunning
  engineLoad := by
    obtain ⟨hnonneg, hle⟩ := coldStartFraction_mem inputs.requestedScenarioLoad
    constructor <;>
      simp only [evolveStationary, kIdleEngineLoad, kColdStartEngineLoadIncrease] <;> linarith
  throttlePosition := by
    obtain ⟨hnonneg, hle⟩ := coldStartFraction_mem inputs.requestedScenarioLoad
    constructor <;>
      simp only [evolveStationary, kIdleThrottlePosition, kColdStartThrottleIncrease] <;> linarith
  vehicleSpeed := le_rfl
  gear := ⟨le_rfl, Int.natCast_nonneg _⟩
  moving := .inl rfl
  ambientPressure := h.ambientPressure
  manifoldPressure := by
    exact mul_nonneg (ambientPressure_nonneg hinputs henvironment)
      (by norm_num [kIdleManifoldPressureFractionOfAmbient])
  lambda := h.lambda
  timingCorrection := h.timingCorrection
  batteryVoltage := h.batteryVoltage

/-- A CITY step stays valid if the redline is not below the idle speed and the profile has the
gear that the new speed needs. -/
theorem evolveCity_isValid (h : state.IsValid profile) (hinputs : inputs.WellFormed environment)
    (henvironment : environment.IsValid) (hrunning : state.engineRunning = true)
    (hredline : kIdleTargetRpm ≤ profile.redlineRpm)
    (hgear : (evolveCity state inputs profile deltaTime).currentGear.toInt ≤
      profile.forwardGearCount.toNat) :
    (evolveCity state inputs profile deltaTime).IsValid profile where
  validProfile := h.validProfile
  acceleratorPedalPosition := h.acceleratorPedalPosition
  requestedScenarioLoad := h.requestedScenarioLoad
  engineSpeed := engineSpeedForGear_mem hredline _ _
  stopped := .inl hrunning
  engineLoad := isNormalized_clamp _
  throttlePosition := isNormalized_clamp _
  vehicleSpeed := by
    simp only [evolveCity, evolveCityDrivetrain]
    split_ifs
    · exact le_rfl
    · exact le_max_left _ _
  gear := ⟨cityGearForSpeed_nonneg _ _, hgear⟩
  moving := by
    simp only [evolveCity, evolveCityDrivetrain]
    split_ifs with hstanding
    · exact .inl rfl
    · exact .inr ⟨hrunning, cityGearForSpeed_pos hstanding⟩
  ambientPressure := h.ambientPressure
  manifoldPressure := by
    have hfraction : 0 ≤ kIdleManifoldPressureFractionOfAmbient +
        (kCityMaximumManifoldPressureFractionOfAmbient - kIdleManifoldPressureFractionOfAmbient) *
          clamp ((inputs.requestedScenarioLoad - kIdleRequestedScenarioLoad) /
            (1 - kIdleRequestedScenarioLoad)) 0 1 := by
      have hnonneg := (isNormalized_clamp ((inputs.requestedScenarioLoad -
        kIdleRequestedScenarioLoad) / (1 - kIdleRequestedScenarioLoad))).1
      simp only [kIdleManifoldPressureFractionOfAmbient,
        kCityMaximumManifoldPressureFractionOfAmbient]
      linarith
    exact mul_nonneg (ambientPressure_nonneg hinputs henvironment) hfraction
  lambda := h.lambda
  timingCorrection := h.timingCorrection
  batteryVoltage := h.batteryVoltage

theorem lambdaTarget_pos (id : CalibrationId) (load : ℚ) :
    0 < (calibrationProfile id).lambdaTarget.lookup load := by
  have hbound : ∀ value ∈ (calibrationProfile id).lambdaTarget.values, (0.5 : ℚ) ≤ value := by
    cases id <;> decide +kernel
  have hpos : (0 : ℚ) < 0.5 := by norm_num
  exact hpos.trans_le (Table1D.le_lookup hbound load)

/-- A WOT_PULL step stays valid if the redline is not below the idle speed and the profile has
the gear of the pull. -/
theorem evolveWideOpenThrottlePull_isValid (hexp : IsFactor exp) (hdelta : 0 < deltaTime)
    (h : state.IsValid profile) (hrunning : state.engineRunning = true)
    (hredline : kIdleTargetRpm ≤ profile.redlineRpm)
    (hgear : kWotPullGear.toInt ≤ profile.forwardGearCount.toNat) (id : CalibrationId) :
    (evolveWideOpenThrottlePull exp state inputs profile (calibrationProfile id)
      deltaTime).IsValid profile where
  validProfile := h.validProfile
  acceleratorPedalPosition := h.acceleratorPedalPosition
  requestedScenarioLoad := h.requestedScenarioLoad
  engineSpeed := engineSpeedForGear_mem hredline _ _
  stopped := .inl hrunning
  engineLoad := isNormalized_clamp _
  throttlePosition := isNormalized_clamp _
  vehicleSpeed := le_max_left _ _
  gear := ⟨(by decide : 0 ≤ kWotPullGear.toInt), hgear⟩
  moving := .inr ⟨hrunning, (by decide : 0 < kWotPullGear.toInt)⟩
  ambientPressure := h.ambientPressure
  manifoldPressure := le_max_left _ _
  lambda := approach_pos hexp hdelta (by norm_num [kWotPullLambdaTimeConstantSeconds]) h.lambda
    (lambdaTarget_pos id _)
  timingCorrection := h.timingCorrection
  batteryVoltage := h.batteryVoltage

theorem evolveRunningEngine_isValid (hexp : IsFactor exp) (hdelta : 0 < deltaTime)
    (h : state.IsValid profile) (scenario : ScenarioId) (activeFaults : ActiveFaults) :
    (evolveRunningEngine exp state inputs scenario activeFaults deltaTime).IsValid profile where
  validProfile := h.validProfile
  acceleratorPedalPosition := h.acceleratorPedalPosition
  requestedScenarioLoad := h.requestedScenarioLoad
  engineSpeed := h.engineSpeed
  stopped := h.stopped
  engineLoad := h.engineLoad
  throttlePosition := h.throttlePosition
  vehicleSpeed := h.vehicleSpeed
  gear := h.gear
  moving := h.moving
  ambientPressure := h.ambientPressure
  manifoldPressure := h.manifoldPressure
  lambda := by
    change 0 < if _ then state.lambda else kIdleLambda
    split
    · exact h.lambda
    · norm_num [kIdleLambda]
  timingCorrection := le_rfl
  batteryVoltage := by
    refine le_approach hexp hdelta ?_ h.batteryVoltage ?_
    · split_ifs <;>
        norm_num [kFailedChargingTimeConstantSeconds, kBatteryVoltageTimeConstantSeconds]
    · split_ifs <;> norm_num [kFailedChargingVoltageVolts, kChargingVoltageVolts]

end Step

/-! ## The condition on a run -/

/-- The redline is not below an engine speed that the scenario aims at in the next step. -/
def VehicleSimulation.RedlineFits (simulation : VehicleSimulation) : Prop :=
  if simulation.configuration.scenario = .coldStart then
    kColdStartRequestTimestampMicroseconds ≤
        simulation.clock.timestamp + simulation.clock.fixedStep →
      kColdStartElevatedRpmTarget ≤ simulation.configuration.vehicleProfile.redlineRpm
  else kIdleTargetRpm ≤ simulation.configuration.vehicleProfile.redlineRpm

/-- In the next step the pedal of CITY does not take the vehicle to the speed of a gear that the
profile does not have. -/
def VehicleSimulation.PedalFitsGears (simulation : VehicleSimulation) : Prop :=
  let demand := cityDemand (simulation.clock.timestamp + simulation.clock.fixedStep)
  simulation.configuration.scenario = .city → demand.2.2 = false →
    ∀ limit ∈ cityGearLimit simulation.configuration.vehicleProfile.forwardGearCount,
      simulation.state.vehicleSpeedMetersPerSecond +
          cityAcceleration simulation.state.vehicleSpeedMetersPerSecond demand.1 false *
            ((simulation.clock.fixedStep.toNat : ℚ) / kMicrosecondsPerSecond) < limit

/-- A state of a run at a time: valid, and in the condition its scenario implies. -/
structure StateFits (configuration : SimulationRunConfiguration) (timestamp : UInt64)
    (state : VehicleState) : Prop where
  valid : state.IsValid configuration.vehicleProfile
  engineRunning : configuration.scenario ≠ .coldStart → state.engineRunning = true
  startRequested : configuration.scenario = .coldStart → state.engineRunning = true →
    kColdStartRequestTimestampMicroseconds ≤ timestamp
  speed : configuration.scenario = .city →
    ∀ limit ∈ cityGearLimit configuration.vehicleProfile.forwardGearCount,
      state.vehicleSpeedMetersPerSecond < limit

section City

variable {speed pedal deltaTime limit : ℚ} {stationaryIntent : Bool} {profile : VehicleProfile}

theorem cityGearLimit_pos {forwardGearCount : UInt8} (h : limit ∈ cityGearLimit forwardGearCount) :
    0 < limit := by
  unfold cityGearLimit at h
  split_ifs at h <;> cases h <;>
    norm_num [kCitySecondGearThresholdMetersPerSecond, kCityThirdGearThresholdMetersPerSecond,
      kCityFourthGearThresholdMetersPerSecond]

theorem evolveCityDrivetrain_speed_le :
    (evolveCityDrivetrain speed pedal stationaryIntent deltaTime
        profile).vehicleSpeedMetersPerSecond ≤
      max 0 (speed + cityAcceleration speed pedal stationaryIntent * deltaTime) := by
  simp only [evolveCityDrivetrain]
  split_ifs
  · exact le_max_left _ _
  · exact le_rfl

/-- Below the limit a step stays below it, if the pedal allows. -/
theorem evolveCityDrivetrain_speed_lt (hlimit : 0 < limit) (hdelta : 0 < deltaTime)
    (hlt : speed < limit)
    (hpedal : stationaryIntent = false →
      speed + cityAcceleration speed pedal false * deltaTime < limit) :
    (evolveCityDrivetrain speed pedal stationaryIntent deltaTime
      profile).vehicleSpeedMetersPerSecond < limit := by
  refine evolveCityDrivetrain_speed_le.trans_lt (max_lt hlimit ?_)
  cases stationaryIntent with
  | false => exact hpedal rfl
  | true =>
    -- Without the pedal the vehicle slows down.
    have hacceleration : cityAcceleration speed pedal true ≤ 0 := by
      simp only [cityAcceleration, if_true, kCityStopDecelerationMetersPerSecondSquared]
      split_ifs <;> norm_num
    have hslower := mul_nonpos_of_nonpos_of_nonneg hacceleration hdelta.le
    linarith

end City

theorem coldStartFraction_idle : coldStartFraction kIdleRequestedScenarioLoad = 0 := by
  decide +kernel

theorem stationaryTargetRpm_le (inputs : ScenarioInputs) :
    stationaryTargetRpm inputs ≤ kColdStartElevatedRpmTarget := by
  have hfraction := (coldStartFraction_mem inputs.requestedScenarioLoad).2
  rw [stationaryTargetRpm, kIdleTargetRpm, kColdStartElevatedRpmTarget]
  linarith

section Advance

variable {exp : ℚ → ℚ} {simulation : VehicleSimulation} {inputs : ScenarioInputs}
  {timestamp : UInt64}

/-- The length of a step in seconds. -/
theorem deltaTime_pos (h : simulation.Consistent) :
    0 < (simulation.clock.fixedStep.toNat : ℚ) / kMicrosecondsPerSecond := by
  rw [h.fixedStep]
  exact div_pos (Nat.cast_pos.2 (VehicleSimulation.fixedStep_pos h))
    (by norm_num [kMicrosecondsPerSecond])

/-- Time and run state do not matter to the validity of a state. -/
theorem isValid_of_evolved {state : VehicleState} {profile : VehicleProfile}
    (h : state.IsValid profile) (runState : SimulationRunState) :
    ({ state with
        timestamp
        runState } : VehicleState).IsValid profile :=
  ⟨h.validProfile, h.acceleratorPedalPosition, h.requestedScenarioLoad, h.engineSpeed, h.stopped,
    h.engineLoad, h.throttlePosition, h.vehicleSpeed, h.gear, h.moving, h.ambientPressure,
    h.manifoldPressure, h.lambda, h.timingCorrection, h.batteryVoltage⟩

theorem nextState_engineRunning :
    (simulation.nextState exp inputs timestamp).engineRunning =
      (simulation.state.engineRunning || inputs.engineStartRequested) := by
  cases hengine : (startedState simulation.state inputs).engineRunning with
  | false =>
    rw [VehicleSimulation.nextState, evolveVehicleState_of_stopped exp hengine]
    rfl
  | true =>
    rw [VehicleSimulation.nextState, evolveVehicleState_of_running exp hengine]
    cases simulation.configuration.scenario <;> rfl

/-- With its engine off, a state stays valid. -/
theorem nextState_isValid_of_stopped (hexp : IsFactor exp) (h : simulation.Consistent)
    (hvalid : simulation.state.IsValid simulation.configuration.vehicleProfile)
    (hwell : inputs.WellFormed simulation.configuration.environment)
    (hengine : (startedState simulation.state inputs).engineRunning = false) :
    (simulation.nextState exp inputs timestamp).IsValid
      simulation.configuration.vehicleProfile := by
  have hstarted := startedState_isValid hvalid hwell h.accepted.environment
  rw [VehicleSimulation.nextState, evolveVehicleState_of_stopped exp hengine]
  exact isValid_of_evolved (evolveStoppedEngine_isValid hexp (deltaTime_pos h) hstarted hwell
    h.accepted.environment hengine) _

/-- With its engine on, a state stays valid if the block of the scenario keeps it valid. -/
theorem nextState_isValid_of_running (hexp : IsFactor exp) (h : simulation.Consistent)
    (hengine : (startedState simulation.state inputs).engineRunning = true)
    (hscenario : (evolveScenario exp (startedState simulation.state inputs) inputs
        simulation.configuration.scenario simulation.configuration.vehicleProfile
        (calibrationProfile simulation.configuration.calibration)
        ((simulation.clock.fixedStep.toNat : ℚ) / kMicrosecondsPerSecond)).IsValid
      simulation.configuration.vehicleProfile) :
    (simulation.nextState exp inputs timestamp).IsValid
      simulation.configuration.vehicleProfile := by
  rw [VehicleSimulation.nextState, evolveVehicleState_of_running exp hengine]
  exact isValid_of_evolved
    (evolveRunningEngine_isValid hexp (deltaTime_pos h) hscenario _ _) _

/-- A step of a run in which the vehicle stands. -/
theorem nextState_isValid_of_standing (hexp : IsFactor exp) (h : simulation.Consistent)
    (hvalid : simulation.state.IsValid simulation.configuration.vehicleProfile)
    (hwell : inputs.WellFormed simulation.configuration.environment)
    (hscenario : simulation.configuration.scenario ≠ .city ∧
      simulation.configuration.scenario ≠ .wideOpenThrottlePull)
    (hengine : (startedState simulation.state inputs).engineRunning = true)
    (htarget : stationaryTargetRpm inputs ≤ simulation.configuration.vehicleProfile.redlineRpm) :
    (simulation.nextState exp inputs timestamp).IsValid
      simulation.configuration.vehicleProfile := by
  have hstarted := startedState_isValid hvalid hwell h.accepted.environment
  have hstanding := evolveStationary_isValid hexp (deltaTime_pos h) hstarted hwell
    h.accepted.environment hengine htarget
  refine nextState_isValid_of_running hexp h hengine ?_
  unfold evolveScenario
  split
  · next hcity => exact absurd hcity hscenario.1
  · next hpull => exact absurd hpull hscenario.2
  · exact hstanding

theorem startedState_running (inputs : ScenarioInputs)
    (h : simulation.state.engineRunning = true) :
    (startedState simulation.state inputs).engineRunning = true := by
  change (simulation.state.engineRunning || _) = true
  rw [h, Bool.true_or]

/-- The speed of a CITY step stays below the limit. -/
theorem nextState_speed_lt (h : simulation.Consistent)
    (hfits : StateFits simulation.configuration simulation.clock.timestamp simulation.state)
    (hgears : simulation.PedalFitsGears) (hcity : simulation.configuration.scenario = .city)
    (hinputs : scenarioInputsFor simulation.configuration.scenario
      (simulation.clock.timestamp + simulation.clock.fixedStep)
      simulation.configuration.environment = .ok inputs) :
    ∀ limit ∈ cityGearLimit simulation.configuration.vehicleProfile.forwardGearCount,
      (evolveCityDrivetrain simulation.state.vehicleSpeedMetersPerSecond
        inputs.acceleratorPedalPosition inputs.commandVehicleStationary
        ((simulation.clock.fixedStep.toNat : ℚ) / kMicrosecondsPerSecond)
        simulation.configuration.vehicleProfile).vehicleSpeedMetersPerSecond < limit := by
  intro limit hlimit
  rw [hcity] at hinputs
  obtain rfl := Except.ok.inj hinputs
  exact evolveCityDrivetrain_speed_lt (cityGearLimit_pos hlimit) (deltaTime_pos h)
    (hfits.speed hcity limit hlimit) (fun hdriving => hgears hcity hdriving limit hlimit)

theorem nextState_isValid_of_city (hexp : IsFactor exp) (h : simulation.Consistent)
    (hfits : StateFits simulation.configuration simulation.clock.timestamp simulation.state)
    (hredline : simulation.RedlineFits) (hgears : simulation.PedalFitsGears)
    (hcity : simulation.configuration.scenario = .city)
    (hinputs : scenarioInputsFor simulation.configuration.scenario
      (simulation.clock.timestamp + simulation.clock.fixedStep)
      simulation.configuration.environment = .ok inputs)
    (hwell : inputs.WellFormed simulation.configuration.environment) :
    (simulation.nextState exp inputs timestamp).IsValid
      simulation.configuration.vehicleProfile := by
  have hrunning := hfits.engineRunning (by rw [hcity]; decide)
  have hengine := startedState_running inputs hrunning
  have hstarted := startedState_isValid hfits.valid hwell h.accepted.environment
  have hidle : kIdleTargetRpm ≤ simulation.configuration.vehicleProfile.redlineRpm := by
    rw [VehicleSimulation.RedlineFits, if_neg (by rw [hcity]; decide)] at hredline
    exact hredline
  have hspeed := nextState_speed_lt h hfits hgears hcity hinputs
  have hgear := (cityGearForSpeed_le_iff h.accepted.vehicleProfile.2.2.2.2.2.2.2.2.2.2.1 _).2 hspeed
  refine nextState_isValid_of_running hexp h hengine ?_
  rw [hcity]
  exact evolveCity_isValid hstarted hwell h.accepted.environment hengine hidle
    ((cityGearForSpeed_le _ _).trans hgear)

theorem nextState_isValid_of_pull (hexp : IsFactor exp) (h : simulation.Consistent)
    (hfits : StateFits simulation.configuration simulation.clock.timestamp simulation.state)
    (hredline : simulation.RedlineFits)
    (hpull : simulation.configuration.scenario = .wideOpenThrottlePull)
    (hwell : inputs.WellFormed simulation.configuration.environment) :
    (simulation.nextState exp inputs timestamp).IsValid
      simulation.configuration.vehicleProfile := by
  have hrunning := hfits.engineRunning (by rw [hpull]; decide)
  have hengine := startedState_running inputs hrunning
  have hstarted := startedState_isValid hfits.valid hwell h.accepted.environment
  have hidle : kIdleTargetRpm ≤ simulation.configuration.vehicleProfile.redlineRpm := by
    rw [VehicleSimulation.RedlineFits, if_neg (by rw [hpull]; decide)] at hredline
    exact hredline
  have hgear : kWotPullGear.toInt ≤
      simulation.configuration.vehicleProfile.forwardGearCount.toNat := by
    have hmotion := h.accepted.initialMotion
    rw [SimulationRunConfiguration.InitialMotionFits, if_pos hpull] at hmotion
    rw [← hmotion.2]
    exact h.accepted.initialConditions.2.2.2.2.2.2.2.1
  refine nextState_isValid_of_running hexp h hengine ?_
  rw [hpull]
  exact evolveWideOpenThrottlePull_isValid hexp (deltaTime_pos h) hstarted hengine hidle hgear _

/-- A step of a run whose condition holds leads to a valid state. -/
theorem nextState_isValid (hexp : IsFactor exp) (h : simulation.Consistent)
    (hfits : StateFits simulation.configuration simulation.clock.timestamp simulation.state)
    (hredline : simulation.RedlineFits) (hgears : simulation.PedalFitsGears)
    (hlater : simulation.clock.timestamp ≤
      simulation.clock.timestamp + simulation.clock.fixedStep)
    (hinputs : scenarioInputsFor simulation.configuration.scenario
      (simulation.clock.timestamp + simulation.clock.fixedStep)
      simulation.configuration.environment = .ok inputs)
    (hwell : inputs.WellFormed simulation.configuration.environment) :
    (simulation.nextState exp inputs timestamp).IsValid
      simulation.configuration.vehicleProfile := by
  have hidleTarget : simulation.configuration.scenario ≠ .coldStart →
      inputs.requestedScenarioLoad = kIdleRequestedScenarioLoad →
      stationaryTargetRpm inputs ≤ simulation.configuration.vehicleProfile.redlineRpm := by
    intro hcold hload
    rw [VehicleSimulation.RedlineFits, if_neg hcold] at hredline
    rw [stationaryTargetRpm, hload, coldStartFraction_idle, mul_zero, add_zero]
    exact hredline
  -- By scenario: the standing ones need room for the target speed, the driven ones their own bounds.
  obtain hidle | hcold | hwarmup | hcity | hpull := h.accepted.scenario
  · have hrunning := hfits.engineRunning (by rw [hidle]; decide)
    have hload : inputs.requestedScenarioLoad = kIdleRequestedScenarioLoad := by
      rw [hidle] at hinputs
      exact (Except.ok.inj hinputs) ▸ rfl
    exact nextState_isValid_of_standing hexp h hfits.valid hwell (by rw [hidle]; decide)
      (startedState_running _ hrunning) (hidleTarget (by rw [hidle]; decide) hload)
  · rw [hcold] at hinputs
    obtain rfl := Except.ok.inj hinputs
    by_cases hearly : simulation.clock.timestamp + simulation.clock.fixedStep <
        kColdStartRequestTimestampMicroseconds
    · -- Before the start is requested the engine has not been running.
      refine nextState_isValid_of_stopped hexp h hfits.valid hwell ?_
      have hoff : simulation.state.engineRunning = false := by
        rw [Bool.eq_false_iff]
        exact fun hrunning => UInt64.not_le.2 hearly
          (UInt64.le_trans (hfits.startRequested hcold hrunning) hlater)
      change (simulation.state.engineRunning ||
        (coldStartInputs _ _).engineStartRequested) = false
      rw [hoff, coldStartInputs, if_pos hearly]
      rfl
    -- From the request on the engine runs, and the redline matters.
    · have htarget : kColdStartElevatedRpmTarget ≤
          simulation.configuration.vehicleProfile.redlineRpm := by
        rw [VehicleSimulation.RedlineFits, if_pos hcold] at hredline
        exact hredline (UInt64.not_lt.1 hearly)
      refine nextState_isValid_of_standing hexp h hfits.valid hwell (by rw [hcold]; decide) ?_
        ((stationaryTargetRpm_le _).trans htarget)
      change (simulation.state.engineRunning ||
        (coldStartInputs _ _).engineStartRequested) = true
      rw [coldStartInputs, if_neg hearly]
      exact Bool.or_true _
  · have hrunning := hfits.engineRunning (by rw [hwarmup]; decide)
    have hload : inputs.requestedScenarioLoad = kIdleRequestedScenarioLoad := by
      rw [hwarmup] at hinputs
      exact (Except.ok.inj hinputs) ▸ rfl
    exact nextState_isValid_of_standing hexp h hfits.valid hwell (by rw [hwarmup]; decide)
      (startedState_running _ hrunning) (hidleTarget (by rw [hwarmup]; decide) hload)
  · exact nextState_isValid_of_city hexp h hfits hredline hgears hcity hinputs hwell
  · exact nextState_isValid_of_pull hexp h hfits hredline hpull hwell

/-- A step of a run whose condition holds leads to a state that fits its time. -/
theorem stateFits_advanced (hexp : IsFactor exp) (h : simulation.Consistent)
    (hrunning : simulation.state.runState = .running)
    (hfits : StateFits simulation.configuration simulation.clock.timestamp simulation.state)
    (hredline : simulation.RedlineFits) (hgears : simulation.PedalFitsGears)
    (hinputs : scenarioInputsFor simulation.configuration.scenario
      (simulation.clock.timestamp + simulation.clock.fixedStep)
      simulation.configuration.environment = .ok inputs)
    (hwell : inputs.WellFormed simulation.configuration.environment) :
    StateFits simulation.configuration (simulation.advanced exp inputs).clock.timestamp
      (simulation.advanced exp inputs).state := by
  have hlater := VehicleSimulation.timestamp_le_add_fixedStep h hrunning
  refine ⟨nextState_isValid hexp h hfits hredline hgears hlater hinputs hwell, ?_, ?_, ?_⟩
  · intro hcold
    change (simulation.nextState exp inputs _).engineRunning = true
    rw [nextState_engineRunning, hfits.engineRunning hcold, Bool.true_or]
  · intro hcold hengine
    change (simulation.nextState exp inputs _).engineRunning = true at hengine
    rw [nextState_engineRunning, Bool.or_eq_true] at hengine
    obtain hbefore | hstart := hengine
    · exact UInt64.le_trans (hfits.startRequested hcold hbefore) hlater
    · rw [hcold] at hinputs
      obtain rfl := Except.ok.inj hinputs
      -- The request is only made from its timestamp on.
      by_contra hnotYet
      have hearly : simulation.clock.timestamp + simulation.clock.fixedStep <
          kColdStartRequestTimestampMicroseconds := UInt64.not_le.1 hnotYet
      rw [coldStartInputs, if_pos hearly] at hstart
      exact Bool.false_ne_true hstart
  · intro hcity limit hlimit
    have hspeed := nextState_speed_lt h hfits hgears hcity hinputs limit hlimit
    have hengine := startedState_running inputs
      (hfits.engineRunning (by rw [hcity]; decide))
    change (simulation.nextState exp inputs _).vehicleSpeedMetersPerSecond < limit
    rw [VehicleSimulation.nextState, evolveVehicleState_of_running exp hengine, hcity]
    exact hspeed

end Advance

/-! ## Runs -/

theorem StateFits.withRunState {configuration : SimulationRunConfiguration} {timestamp : UInt64}
    {state : VehicleState} (h : StateFits configuration timestamp state)
    (runState : SimulationRunState) :
    StateFits configuration timestamp { state with runState } :=
  ⟨isValid_of_evolved h.valid runState, h.engineRunning, h.startRequested, h.speed⟩

/-- The state of a run and the state it is reset to fit their times. -/
structure VehicleSimulation.Fits (simulation : VehicleSimulation) : Prop where
  consistent : simulation.Consistent
  state : StateFits simulation.configuration simulation.clock.timestamp simulation.state
  initialState : StateFits simulation.configuration 0 simulation.initialState

namespace VehicleSimulation

section Runs

variable {exp : ℚ → ℚ} {simulation : VehicleSimulation}

theorem Fits.pause (h : simulation.Fits) : simulation.pause.Fits := by
  have hconsistent := consistent_pause h.consistent
  unfold VehicleSimulation.pause at hconsistent ⊢
  split
  · exact h
  · next hnot =>
    rw [if_neg hnot] at hconsistent
    exact ⟨hconsistent, h.state.withRunState _, h.initialState⟩

theorem Fits.resume (h : simulation.Fits) : simulation.resume.Fits := by
  have hconsistent := consistent_resume h.consistent
  unfold VehicleSimulation.resume at hconsistent ⊢
  split
  · exact h
  · next hpaused =>
    rw [if_neg hpaused] at hconsistent
    exact ⟨hconsistent, h.state.withRunState _, h.initialState⟩

theorem Fits.reset (h : simulation.Fits) : simulation.reset.Fits :=
  ⟨consistent_reset h.consistent, h.initialState, h.initialState⟩

/-- A tick keeps a run within its profile if the condition holds before it. -/
theorem Fits.tick (hexp : IsFactor exp) (h : simulation.Fits)
    (hprofile : simulation.state.runState = .running →
      simulation.RedlineFits ∧ simulation.PedalFitsGears) :
    ∃ executed next, simulation.tick exp = .ok (executed, next) ∧ next.Fits ∧
      next.configuration = simulation.configuration := by
  by_cases hrunning : simulation.state.runState = .running
  · obtain ⟨inputs, hinputs, hwell, htick⟩ := tick_of_running exp h.consistent hrunning
    obtain ⟨hredline, hgears⟩ := hprofile hrunning
    exact ⟨true, _, htick, ⟨(consistent_advanced exp h.consistent hrunning inputs).1,
      stateFits_advanced hexp h.consistent hrunning h.state hredline hgears hinputs hwell,
      h.initialState⟩, rfl⟩
  · exact ⟨false, _, tick_of_inactive h.consistent hrunning, h, rfl⟩

/-- A simulation as constructed. -/
theorem fits_of_create {configuration : SimulationRunConfiguration}
    (hcreate : create configuration = .ok simulation) :
    simulation.Fits ∧ simulation.configuration = configuration := by
  obtain ⟨hconsistent, rfl, hinitial, hclock, hvalid⟩ := create_spec hcreate
  obtain ⟨-, -, hengine, hspeed⟩ := initialState_start hconsistent.initialState
  have hfits : StateFits simulation.configuration 0 simulation.initialState := by
    refine ⟨hvalid, fun hnot => ?_, fun hcold hrunning => ?_, fun hcity limit hlimit => ?_⟩
    · rw [hengine, hconsistent.accepted.initialEngine, decide_eq_true hnot]
    · rw [hengine, hconsistent.accepted.initialEngine, decide_eq_true_eq] at hrunning
      exact absurd hcold hrunning
    · have hmotion := hconsistent.accepted.initialMotion
      rw [SimulationRunConfiguration.InitialMotionFits, if_neg (by rw [hcity]; decide)] at hmotion
      rw [hspeed, hmotion.1]
      exact cityGearLimit_pos hlimit
  refine ⟨⟨hconsistent, ?_, hfits⟩, rfl⟩
  rw [hclock, hinitial]
  exact hfits

end Runs

/-- The calls of a run that is advanced tick by tick. -/
def IsSingleStep (call : SimulationCall) : Prop :=
  call = .tick ∨ call = .pause ∨ call = .resume ∨ call = .reset

/-- Every call of a run keeps it within its profile, if the condition holds before every tick. -/
theorem Fits.callAll {exp : ℚ → ℚ} (hexp : IsFactor exp) {simulation : VehicleSimulation}
    {executed : ℕ} (h : simulation.Fits)
    {calls : List SimulationCall} (hcalls : ∀ call ∈ calls, IsSingleStep call)
    (hprofile : ∀ before after ticks reached, calls = before ++ .tick :: after →
      simulation.callAll exp executed before = .ok (ticks, reached) →
      reached.state.runState = .running → reached.RedlineFits ∧ reached.PedalFitsGears) :
    ∃ ticks after, simulation.callAll exp executed calls = .ok (ticks, after) ∧ after.Fits ∧
      after.configuration = simulation.configuration := by
  induction calls generalizing simulation executed with
  | nil => exact ⟨executed, simulation, rfl, h, rfl⟩
  | cons call rest ih =>
    -- A step is the only call that needs the condition; it is the one at the head of the list.
    have hstep : ∃ ticks next, simulation.call exp call = .ok (ticks, next) ∧ next.Fits ∧
        next.configuration = simulation.configuration := by
      obtain rfl | rfl | rfl | rfl := hcalls call List.mem_cons_self
      · obtain ⟨ran, next, htick, hnext, hsame⟩ := h.tick hexp
          (hprofile [] rest executed simulation rfl rfl)
        refine ⟨if ran then 1 else 0, next, ?_, hnext, hsame⟩
        rw [call, htick]
        rfl
      · exact ⟨0, _, rfl, h.pause, by unfold VehicleSimulation.pause; split <;> rfl⟩
      · exact ⟨0, _, rfl, h.resume, by unfold VehicleSimulation.resume; split <;> rfl⟩
      · exact ⟨0, _, rfl, h.reset, rfl⟩
    obtain ⟨ticks, next, hcall, hnext, hsame⟩ := hstep
    obtain ⟨total, after, hrun, hafter, hconfiguration⟩ := ih hnext
      (fun other hmem => hcalls other (List.mem_cons_of_mem _ hmem))
      (fun before later count reached hsplit hreached =>
        hprofile (call :: before) later count reached (by rw [hsplit]; rfl)
          (by rw [VehicleSimulation.callAll, hcall]; exact hreached))
    refine ⟨total, after, ?_, hafter, hconfiguration.trans hsame⟩
    rw [VehicleSimulation.callAll, hcall]
    exact hrun

/-- Every reached state is valid if, before every executed tick, the redline fits the engine speed
that the scenario aims at and the pedal of CITY fits the gears of the profile. -/
theorem reached_states_are_valid (exp : ℚ → ℚ) (hexp : IsFactor exp)
    {configuration : SimulationRunConfiguration} {simulation : VehicleSimulation}
    (hcreate : create configuration = .ok simulation)
    (calls : List SimulationCall) (hcalls : ∀ call ∈ calls, IsSingleStep call)
    (hprofile : ∀ before after ticks reached, calls = before ++ .tick :: after →
      simulation.callAll exp 0 before = .ok (ticks, reached) →
      reached.state.runState = .running → reached.RedlineFits ∧ reached.PedalFitsGears) :
    ∃ ticks after, simulation.callAll exp 0 calls = .ok (ticks, after) ∧
      after.state.IsValid configuration.vehicleProfile := by
  obtain ⟨hfits, rfl⟩ := fits_of_create hcreate
  obtain ⟨ticks, after, hrun, hafter, hsame⟩ := hfits.callAll hexp hcalls hprofile
  exact ⟨ticks, after, hrun, hsame ▸ hafter.state.valid⟩

/-- One tick of the default idle run, on a profile whose redline fits. -/
theorem idle_state_is_valid :
    ∃ ticks after, idleSimulation.callAll reciprocalDecay 0 [.tick] = .ok (ticks, after) ∧
      after.state.IsValid makeE90335iN54ManualProfile := by
  refine reached_states_are_valid reciprocalDecay isFactor_reciprocal create_idleSimulation [.tick]
    (fun call hmem => .inl (List.mem_singleton.1 hmem)) ?_
  intro before after ticks reached hsplit hrun _
  cases before with
  | nil =>
    cases hrun
    exact ⟨(by decide +kernel : kIdleTargetRpm ≤ makeE90335iN54ManualProfile.redlineRpm),
      fun hcity => absurd hcity (by decide)⟩
  | cons call rest =>
    have hlength := congrArg List.length hsplit
    simp only [List.length_cons, List.length_append, List.length_nil] at hlength
    omega

/-- The default CITY run with a step of five seconds, on a profile with one gear. -/
def singleSpeedConfiguration : SimulationRunConfiguration :=
  { makeDefaultCityRunConfiguration {} with
    vehicleProfile :=
      { makeE90335iN54ManualProfile with
        forwardGearCount := 1 }
    fixedStep := 5000000 }

/-- The constructor accepts a vehicle with one gear, and CITY shifts it into its second. -/
theorem single_speed_vehicle_shifts_up :
    ¬ ∀ exp, IsFactor exp → ∀ configuration simulation, create configuration = .ok simulation →
      ∀ calls, (∀ call ∈ calls, IsSingleStep call) → ∀ ticks after,
        simulation.callAll exp 0 calls = .ok (ticks, after) →
        after.state.IsValid configuration.vehicleProfile := by
  intro h
  have hfails : (do
      let simulation ← create singleSpeedConfiguration
      let result ← simulation.callAll reciprocalDecay 0 [.tick]
      return decide (result.2.state.IsValid singleSpeedConfiguration.vehicleProfile) :
        Except CppException Bool) = .ok false := by decide +kernel
  -- The evaluation already excludes both errors; what is left is the state that was reached.
  cases hcreate : create singleSpeedConfiguration with
  | error e =>
    rw [hcreate] at hfails
    cases hfails
  | ok simulation =>
    rw [hcreate] at hfails
    cases hrun : simulation.callAll reciprocalDecay 0 [.tick] with
    | error e =>
      change (simulation.callAll reciprocalDecay 0 [.tick] >>= _) = _ at hfails
      rw [hrun] at hfails
      cases hfails
    | ok result =>
      change (simulation.callAll reciprocalDecay 0 [.tick] >>= _) = _ at hfails
      rw [hrun] at hfails
      have hvalid := h reciprocalDecay isFactor_reciprocal singleSpeedConfiguration simulation
        hcreate [.tick] (fun call hmem => .inl (List.mem_singleton.1 hmem)) result.1 result.2 hrun
      exact absurd hvalid (of_decide_eq_false (Except.ok.inj hfails))

end VehicleSimulation

end TunerOs
