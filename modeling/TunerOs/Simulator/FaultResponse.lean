-- SUMMARY: How soon a vehicle shows the faults that act on it, and how far its speed moves between two states.
import TunerOs.Simulator.NominalRun

/-!
# Responses to faults

A fault of the cooling or of the charging system pulls a value towards a faulty target.
While it does, the distance left shrinks at least as fast as the time constant over the
time since its onset, which bounds when the value is out of its limits.
-/

namespace TunerOs

/-! ## Decay -/

/-- What `std::exp` also gives for a negative exponent: no more than the reciprocal of one plus the
exponent's magnitude. -/
structure IsDecay (exp : ℚ → ℚ) : Prop where
  factor : IsFactor exp
  le_one : ∀ x > 0, exp (-x) * (1 + x) ≤ 1

theorem isDecay_reciprocal : IsDecay reciprocalDecay := by
  refine ⟨isFactor_reciprocal, fun x hx => ?_⟩
  have hpositive : 0 < 1 + x := by linarith
  rw [reciprocalDecay, sub_neg_eq_add, one_div, inv_mul_cancel₀ hpositive.ne']

/-- A distance that decays over a step stays within its bound over the time elapsed. -/
theorem decay_step {distance factor elapsed later delta timeConstant bound : ℚ}
    (hconstant : 0 < timeConstant) (hfactor : 0 < factor)
    (hdecay : factor * (1 + delta / timeConstant) ≤ 1) (hdelta : 0 < delta) (helapsed : 0 ≤ elapsed)
    (hnonneg : 0 ≤ later) (hlater : later ≤ elapsed + delta) (hbound : 0 ≤ bound)
    (h : distance * (1 + elapsed / timeConstant) ≤ bound) :
    distance * factor * (1 + later / timeConstant) ≤ bound := by
  have hx : 0 ≤ elapsed / timeConstant := div_nonneg helapsed hconstant.le
  have hy : 0 ≤ later / timeConstant := div_nonneg hnonneg hconstant.le
  have hd : 0 < delta / timeConstant := div_pos hdelta hconstant
  have hle : later / timeConstant ≤ elapsed / timeConstant + delta / timeConstant := by
    rw [← add_div]
    gcongr
  obtain hneg | hpos := le_or_gt distance 0
  · have hleft : distance * factor ≤ 0 := mul_nonpos_of_nonpos_of_nonneg hneg hfactor.le
    exact (mul_nonpos_of_nonpos_of_nonneg hleft (by linarith)).trans hbound
  · have hproduct : 1 + later / timeConstant ≤
        (1 + elapsed / timeConstant) * (1 + delta / timeConstant) := by
      have hcross := mul_nonneg hx hd.le
      linarith
    have hfull : 0 ≤ distance * (1 + elapsed / timeConstant) := by positivity
    calc distance * factor * (1 + later / timeConstant)
        ≤ distance * factor * ((1 + elapsed / timeConstant) * (1 + delta / timeConstant)) := by
          gcongr
      _ = distance * (1 + elapsed / timeConstant) * (factor * (1 + delta / timeConstant)) := by ring
      _ ≤ distance * (1 + elapsed / timeConstant) * 1 := by gcongr
      _ ≤ bound := by rw [mul_one]; exact h

/-- The seconds that have passed at a time since an onset in microseconds. -/
def secondsSince (onset : ℕ) (timestamp : UInt64) : ℚ :=
  ((timestamp.toNat - onset : ℕ) : ℚ) / kMicrosecondsPerSecond

theorem secondsSince_nonneg (onset : ℕ) (timestamp : UInt64) : 0 ≤ secondsSince onset timestamp :=
  div_nonneg (Nat.cast_nonneg _) (by norm_num [kMicrosecondsPerSecond])

theorem secondsSince_of_le {onset : ℕ} {timestamp : UInt64} (h : timestamp.toNat ≤ onset) :
    secondsSince onset timestamp = 0 := by
  rw [secondsSince, Nat.sub_eq_zero_of_le h, Nat.cast_zero, zero_div]

theorem secondsSince_le {onset step : ℕ} {earlier later : UInt64}
    (h : later.toNat = earlier.toNat + step) :
    secondsSince onset later ≤
      secondsSince onset earlier + (step : ℚ) / kMicrosecondsPerSecond := by
  have hsub : later.toNat - onset ≤ (earlier.toNat - onset) + step := by omega
  have hcast : ((later.toNat - onset : ℕ) : ℚ) ≤ ((earlier.toNat - onset : ℕ) : ℚ) + step := by
    exact_mod_cast hsub
  have hpos : (0 : ℚ) < kMicrosecondsPerSecond := by norm_num [kMicrosecondsPerSecond]
  rw [secondsSince, secondsSince, ← add_div]
  gcongr

/-! ## The engine runs -/

/-- When the engine of a run starts. -/
def SimulationRunConfiguration.engineStart (configuration : SimulationRunConfiguration) : ℕ :=
  if configuration.scenario = .coldStart then kColdStartRequestTimestampMicroseconds.toNat else 0

/-- From its start on the engine is running. -/
def VehicleState.EngineRuns (state : VehicleState) (configuration : SimulationRunConfiguration) :
    Prop :=
  configuration.engineStart ≤ state.timestamp.toNat → state.engineRunning = true

section Engine

variable {exp : ℚ → ℚ} {simulation : VehicleSimulation} {inputs : ScenarioInputs}
  {configuration : SimulationRunConfiguration} {timestamp : UInt64} {state : VehicleState}

theorem engineRunning_of_start (hruns : state.EngineRuns configuration)
    (hinputs : scenarioInputsFor configuration.scenario timestamp configuration.environment =
      .ok inputs) (hstart : configuration.engineStart ≤ timestamp.toNat) :
    (startedState state inputs).engineRunning = true := by
  change (state.engineRunning || inputs.engineStartRequested) = true
  by_cases hcold : configuration.scenario = .coldStart
  · have hrequest : kColdStartRequestTimestampMicroseconds.toNat ≤ timestamp.toNat := by
      rw [SimulationRunConfiguration.engineStart, if_pos hcold] at hstart
      exact hstart
    have hlate : ¬ timestamp < kColdStartRequestTimestampMicroseconds := fun hearly =>
      absurd (UInt64.lt_iff_toNat_lt.1 hearly) (not_lt.2 hrequest)
    rw [hcold] at hinputs
    cases hinputs
    rw [coldStartInputs, if_neg hlate, Bool.or_true]
  · have hzero : configuration.engineStart = 0 := if_neg hcold
    rw [hruns (hzero ▸ Nat.zero_le _), Bool.true_or]

/-- A step keeps the engine running. -/
theorem VehicleState.EngineRuns.nextState
    (hruns : simulation.state.EngineRuns simulation.configuration)
    (hinputs : scenarioInputsFor simulation.configuration.scenario timestamp
      simulation.configuration.environment = .ok inputs) :
    (simulation.nextState exp inputs timestamp).EngineRuns simulation.configuration := by
  intro hstart
  rw [nextState_engineRunning]
  exact engineRunning_of_start hruns hinputs hstart

theorem engineRuns_initial (haccepted : configuration.IsAccepted)
    (hmake : makeInitialState configuration = .ok state) : state.EngineRuns configuration := by
  obtain ⟨htime, -, hrunning, -⟩ := VehicleSimulation.initialState_start hmake
  intro hstart
  by_cases hcold : configuration.scenario = .coldStart
  · rw [SimulationRunConfiguration.engineStart, if_pos hcold, htime] at hstart
    exact absurd hstart (by decide)
  · rw [hrunning, haccepted.initialEngine, decide_eq_true hcold]

end Engine

/-! ## Temperature and voltage -/

/-- When a fault acts on the vehicle: once it is activated and the engine runs. -/
def FaultConfiguration.onset (fault : FaultConfiguration)
    (configuration : SimulationRunConfiguration) : ℕ :=
  max fault.activationTime.toNat configuration.engineStart

/-- How far below the temperature of a degraded cooling system the coolant can be. -/
def SimulationRunConfiguration.coolantDistance (configuration : SimulationRunConfiguration) : ℚ :=
  kDegradedCoolingEquilibriumCelsius - min
    configuration.initialConditions.coolantTemperatureCelsius kCoolantIdleEquilibriumCelsius

/-- How far above the voltage of a failed charging system the battery can be. -/
def SimulationRunConfiguration.batteryDistance (configuration : SimulationRunConfiguration) : ℚ :=
  max configuration.initialConditions.batteryVoltageVolts kChargingVoltageVolts -
    kFailedChargingVoltageVolts

/-- What the fault has done to the state. -/
structure VehicleState.Responds (state : VehicleState) (configuration : SimulationRunConfiguration)
    (fault : FaultConfiguration) : Prop where
  coolant : fault.id = .coolingSystemDegradation →
    (kDegradedCoolingEquilibriumCelsius - state.coolantTemperatureCelsius) *
      (1 + secondsSince (fault.onset configuration) state.timestamp /
        kDegradedCoolingTimeConstantSeconds) ≤ configuration.coolantDistance
  battery : fault.id = .chargingSystemFailure →
    (state.batteryVoltageVolts - kFailedChargingVoltageVolts) *
      (1 + secondsSince (fault.onset configuration) state.timestamp /
        kFailedChargingTimeConstantSeconds) ≤ configuration.batteryDistance

section Responds

variable {exp : ℚ → ℚ} {simulation : VehicleSimulation} {inputs : ScenarioInputs}
  {configuration : SimulationRunConfiguration} {timestamp : UInt64} {state : VehicleState}
  {fault : FaultConfiguration}

theorem approach_sub (exp : ℚ → ℚ) (current target timeConstant deltaTime : ℚ) :
    target - approach exp current target timeConstant deltaTime =
        (target - current) * exp (-(deltaTime / timeConstant)) ∧
      approach exp current target timeConstant deltaTime - target =
        (current - target) * exp (-(deltaTime / timeConstant)) := by
  rw [approach, neg_div]
  constructor <;> ring

theorem coolantDistance_nonneg (configuration : SimulationRunConfiguration) :
    0 ≤ configuration.coolantDistance := by
  have hle : min configuration.initialConditions.coolantTemperatureCelsius
      kCoolantIdleEquilibriumCelsius ≤ kCoolantIdleEquilibriumCelsius := min_le_right _ _
  norm_num [kCoolantIdleEquilibriumCelsius] at hle
  norm_num [SimulationRunConfiguration.coolantDistance, kCoolantIdleEquilibriumCelsius,
    kDegradedCoolingEquilibriumCelsius]

theorem batteryDistance_nonneg (configuration : SimulationRunConfiguration) :
    0 ≤ configuration.batteryDistance := by
  have hle : kChargingVoltageVolts ≤ max configuration.initialConditions.batteryVoltageVolts
      kChargingVoltageVolts := le_max_right _ _
  norm_num [SimulationRunConfiguration.batteryDistance, kChargingVoltageVolts,
    kFailedChargingVoltageVolts]

/-- A distance that stays within its bound before the onset and decays from it on. -/
theorem distance_step (hexp : IsDecay exp) {distance next timeConstant bound : ℚ}
    {onset step : ℕ} {earlier later : UInt64} (hconstant : 0 < timeConstant) (hstep : 0 < step)
    (hbound : 0 ≤ bound) (hlater : later.toNat = earlier.toNat + step)
    (hkept : later.toNat < onset → distance ≤ bound → next ≤ bound)
    (hdecays : onset ≤ later.toNat →
      next = distance * exp (-(((step : ℚ) / kMicrosecondsPerSecond) / timeConstant)))
    (h : distance * (1 + secondsSince onset earlier / timeConstant) ≤ bound) :
    next * (1 + secondsSince onset later / timeConstant) ≤ bound := by
  obtain hearly | hacting := lt_or_ge later.toNat onset
  · rw [secondsSince_of_le (by omega), zero_div, add_zero, mul_one] at h
    rw [secondsSince_of_le hearly.le, zero_div, add_zero, mul_one]
    exact hkept hearly h
  · have hdelta : (0 : ℚ) < (step : ℚ) / kMicrosecondsPerSecond :=
      div_pos (Nat.cast_pos.2 hstep) (by norm_num [kMicrosecondsPerSecond])
    have hratio := div_pos hdelta hconstant
    rw [hdecays hacting]
    exact decay_step hconstant (hexp.factor _ (neg_neg_of_pos hratio)).1 (hexp.le_one _ hratio)
      hdelta (secondsSince_nonneg _ _) (secondsSince_nonneg _ _) (secondsSince_le hlater) hbound h

/-- From its onset until it is cleared a fault acts on a running engine. -/
theorem acts_of_onset (hruns : state.EngineRuns configuration)
    (hinputs : scenarioInputsFor configuration.scenario timestamp configuration.environment =
      .ok inputs) (hfault : fault ∈ configuration.faults)
    (hbefore : ∀ time ∈ fault.deactivationTime, timestamp < time)
    (honset : fault.onset configuration ≤ timestamp.toNat) :
    (startedState state inputs).engineRunning = true ∧
      (activeFaultsAt configuration.faults timestamp).has fault.id = true := by
  refine ⟨engineRunning_of_start hruns hinputs ((le_max_right _ _).trans honset), ?_⟩
  rw [activeFaultsAt_has]
  exact ⟨fault, hfault, rfl, UInt64.le_iff_toNat_le.2 ((le_max_left _ _).trans honset), hbefore⟩

/-- A step before the fault is cleared, on a vehicle that responds to it. -/
theorem VehicleState.Responds.nextState (hexp : IsDecay exp) (hconsistent : simulation.Consistent)
    (hruns : simulation.state.EngineRuns simulation.configuration)
    (hinputs : scenarioInputsFor simulation.configuration.scenario timestamp
      simulation.configuration.environment = .ok inputs)
    (hfault : fault ∈ simulation.configuration.faults)
    (hbefore : ∀ time ∈ fault.deactivationTime, timestamp < time)
    (hlater : timestamp.toNat =
      simulation.state.timestamp.toNat + simulation.configuration.fixedStep.toNat)
    (h : simulation.state.Responds simulation.configuration fault) :
    (simulation.nextState exp inputs timestamp).Responds simulation.configuration fault := by
  have hdelta : 0 < simulation.deltaTimeSeconds := deltaTime_pos hconsistent
  have hdeltaTime : simulation.deltaTimeSeconds =
      (simulation.configuration.fixedStep.toNat : ℚ) / kMicrosecondsPerSecond := by
    rw [VehicleSimulation.deltaTimeSeconds, hconsistent.fixedStep]
  have hacts := fun honset => acts_of_onset hruns hinputs hfault hbefore honset
  constructor
  · intro hid
    refine distance_step hexp (by norm_num [kDegradedCoolingTimeConstantSeconds])
      (VehicleSimulation.fixedStep_pos hconsistent) (coolantDistance_nonneg _) hlater ?_ ?_
      (h.coolant hid)
    · intro hearly hwithin
      -- every target is above what the distance is measured from
      have hfloor : kDegradedCoolingEquilibriumCelsius - simulation.configuration.coolantDistance ≤
          kCoolantIdleEquilibriumCelsius := by
        rw [SimulationRunConfiguration.coolantDistance, sub_sub_cancel]
        exact min_le_right _ _
      have hnonneg := coolantDistance_nonneg simulation.configuration
      suffices hkept : kDegradedCoolingEquilibriumCelsius -
          simulation.configuration.coolantDistance ≤
            (simulation.nextState exp inputs timestamp).coolantTemperatureCelsius by linarith
      cases hengine : (startedState simulation.state inputs).engineRunning with
      | false =>
        rw [(nextState_of_stopped exp timestamp hengine).2.1]
        linarith
      | true =>
        rw [(nextState_of_running exp timestamp hengine).2.1]
        refine le_approach hexp.factor hdelta ?_ (by linarith) ?_
        · split <;>
            norm_num [kDegradedCoolingTimeConstantSeconds, kCoolantWarmupTimeConstantSeconds]
        · split
          · linarith
          · exact hfloor
    · intro honset
      obtain ⟨hengine, hactive⟩ := hacts honset
      rw [hid] at hactive
      have hcooling : (activeFaultsAt simulation.configuration.faults
        timestamp).coolingSystemDegradation = true := hactive
      rw [(nextState_of_running exp timestamp hengine).2.1, hcooling, if_pos rfl, if_pos rfl,
        (approach_sub exp _ _ _ _).1, hdeltaTime]
  · intro hid
    refine distance_step hexp (by norm_num [kFailedChargingTimeConstantSeconds])
      (VehicleSimulation.fixedStep_pos hconsistent) (batteryDistance_nonneg _) hlater ?_ ?_
      (h.battery hid)
    · intro hearly hwithin
      have hceiling : kChargingVoltageVolts ≤
          kFailedChargingVoltageVolts + simulation.configuration.batteryDistance := by
        rw [SimulationRunConfiguration.batteryDistance, add_sub_cancel]
        exact le_max_right _ _
      have hcharging : (14.2 : ℚ) ≤
          kFailedChargingVoltageVolts + simulation.configuration.batteryDistance := hceiling
      suffices hkept : (simulation.nextState exp inputs timestamp).batteryVoltageVolts ≤
          kFailedChargingVoltageVolts + simulation.configuration.batteryDistance by linarith
      cases hengine : (startedState simulation.state inputs).engineRunning with
      | false =>
        rw [(nextState_of_stopped exp timestamp hengine).2.2.2.1]
        refine approach_le hexp.factor hdelta (by norm_num [kBatteryVoltageTimeConstantSeconds])
          (by linarith) ?_
        norm_num [kRestingBatteryVoltageVolts]
        linarith
      | true =>
        rw [(nextState_of_running exp timestamp hengine).2.2.2.1]
        refine approach_le hexp.factor hdelta ?_ (by linarith) ?_
        · split <;>
            norm_num [kFailedChargingTimeConstantSeconds, kBatteryVoltageTimeConstantSeconds]
        · split
          · exact le_add_of_nonneg_right (batteryDistance_nonneg _)
          · exact hceiling
    · intro honset
      obtain ⟨hengine, hactive⟩ := hacts honset
      rw [hid] at hactive
      have hcharging : (activeFaultsAt simulation.configuration.faults
        timestamp).chargingSystemFailure = true := hactive
      rw [(nextState_of_running exp timestamp hengine).2.2.2.1, hcharging, if_pos rfl, if_pos rfl,
        (approach_sub exp _ _ _ _).2, hdeltaTime]

theorem responds_initial (hmake : makeInitialState configuration = .ok state)
    (fault : FaultConfiguration) : state.Responds configuration fault := by
  unfold makeInitialState at hmake
  cases hinputs : scenarioInputsFor configuration.scenario 0 configuration.environment with
  | error e =>
    rw [hinputs] at hmake
    cases hmake
  | ok inputs =>
    rw [hinputs] at hmake
    cases hmake
    have hzero : secondsSince (fault.onset configuration) 0 = 0 :=
      secondsSince_of_le (Nat.zero_le _)
    constructor <;> intro <;> simp only [hzero, zero_div, add_zero, mul_one]
    · exact sub_le_sub_left (min_le_left _ _) _
    · exact sub_le_sub_right (le_max_left _ _) _

end Responds

/-! ## Speed -/

/-- A speed that wheel speed frames can carry with the bias of a sensor on it. -/
def maximumDetectableSpeed : ℚ := 600

/-- How speed moves over some seconds: it rises by six metres per second in a second at most, and
falls by sixteen, but for a vehicle that is almost standing. -/
structure SpeedMoves (seconds earlier later : ℚ) : Prop where
  rises : later ≤ earlier + 6 * seconds
  falls : earlier - 16 * seconds ≤ later ∨ earlier ≤ kCityStopSpeedEpsilonMetersPerSecond + 16 * seconds

/-- A speed that moves stays detectable. -/
structure SpeedFits (scenario : ScenarioId) (speed : ℚ) : Prop where
  nonneg : 0 ≤ speed
  le : speed ≤ maximumDetectableSpeed
  standing : scenario ≠ .city → scenario ≠ .wideOpenThrottlePull → speed = 0

section Speed

variable {exp : ℚ → ℚ} {speed seconds acceleration : ℚ}

theorem speedMoves_refl (speed : ℚ) : SpeedMoves 0 speed speed :=
  ⟨by linarith, .inl (by linarith)⟩

/-- A step after a longer time. -/
theorem SpeedMoves.trans {first second start between last : ℚ} (hsecond : 0 ≤ second)
    (h : SpeedMoves first start between) (hstep : SpeedMoves second between last) :
    SpeedMoves (first + second) start last := by
  refine ⟨by linarith [h.rises, hstep.rises], ?_⟩
  rcases h.falls with hfirst | hslow
  · rcases hstep.falls with hlast | hstopping
    · exact .inl (by linarith)
    · exact .inr (by linarith)
  · exact .inr (by linarith)

/-- Two speeds within four hundredths of a second differ by less than a metre per second. -/
theorem SpeedMoves.abs_sub_lt {earlier later : ℚ} (h : SpeedMoves seconds earlier later)
    (hlater : 0 ≤ later) (hseconds : seconds ≤ 1 / 25) :
    |earlier - later| < 1 := by
  have hrises := h.rises
  rw [abs_sub_lt_iff]
  constructor
  · rcases h.falls with hfalls | hslow
    · linarith
    · norm_num [kCityStopSpeedEpsilonMetersPerSecond] at hslow
      linarith
  · linarith

/-- A speed that accelerates within the limits of the drivetrains. -/
theorem speedMoves_of_acceleration (hseconds : 0 ≤ seconds) (hspeed : 0 ≤ speed)
    (hlow : -16 ≤ acceleration) (hhigh : acceleration ≤ 6) :
    SpeedMoves seconds speed (max 0 (speed + acceleration * seconds)) := by
  have hfrom : -16 * seconds ≤ acceleration * seconds := by gcongr
  have hto : acceleration * seconds ≤ 6 * seconds := by gcongr
  refine ⟨max_le (by linarith) (by linarith), .inl ?_⟩
  exact le_trans (by linarith) (le_max_right _ _)

theorem speed_le_of_acceleration (hseconds : 0 ≤ seconds) (hone : seconds ≤ 1)
    (hspeed : speed ≤ maximumDetectableSpeed) (hhigh : acceleration ≤ 6)
    (hdrag : 590 < speed → acceleration ≤ 0) :
    max 0 (speed + acceleration * seconds) ≤ maximumDetectableSpeed := by
  have hmaximum : maximumDetectableSpeed = 600 := rfl
  rw [hmaximum] at hspeed ⊢
  refine max_le (by norm_num) ?_
  obtain hslow | hfast := le_or_gt speed 590
  · have hto : acceleration * seconds ≤ 6 * seconds := by gcongr
    linarith
  · have hto : acceleration * seconds ≤ 0 :=
      mul_nonpos_of_nonpos_of_nonneg (hdrag hfast) hseconds
    linarith

theorem cityAcceleration_mem {pedal : ℚ} (hpedal : IsNormalized pedal)
    (hle : speed ≤ maximumDetectableSpeed) (stationaryIntent : Bool) :
    -16 ≤ cityAcceleration speed pedal stationaryIntent ∧
      cityAcceleration speed pedal stationaryIntent ≤ 6 ∧
      (590 < speed → cityAcceleration speed pedal stationaryIntent ≤ 0) := by
  have hmaximum : maximumDetectableSpeed = 600 := rfl
  obtain ⟨hzero, hone⟩ := hpedal
  rw [hmaximum] at hle
  simp only [cityAcceleration, kCityStopDecelerationMetersPerSecondSquared,
    kCityMaximumDriveAccelerationMetersPerSecondSquared,
    kCityRollingDecelerationMetersPerSecondSquared, kCityDragDecelerationPerMeterPerSecond]
  split_ifs <;> refine ⟨?_, ?_, fun hfast => ?_⟩ <;> linarith

/-- A step of the CITY drivetrain. -/
theorem evolveCityDrivetrain_speed {pedal : ℚ} (hpedal : IsNormalized pedal) (hseconds : 0 ≤ seconds)
    (hone : seconds ≤ 1) (hspeed : 0 ≤ speed) (hle : speed ≤ maximumDetectableSpeed)
    (stationaryIntent : Bool) (profile : VehicleProfile) :
    let later := (evolveCityDrivetrain speed pedal stationaryIntent seconds
      profile).vehicleSpeedMetersPerSecond
    0 ≤ later ∧ later ≤ maximumDetectableSpeed ∧ SpeedMoves seconds speed later := by
  obtain ⟨hlow, hhigh, hdrag⟩ := cityAcceleration_mem hpedal hle stationaryIntent
  have hmoves := speedMoves_of_acceleration hseconds hspeed hlow hhigh
  have hbound := speed_le_of_acceleration hseconds hone hle hhigh hdrag
  simp only [evolveCityDrivetrain]
  split_ifs with hstop
  · refine ⟨le_rfl, by norm_num [maximumDetectableSpeed], by linarith, ?_⟩
    rcases hmoves.falls with hfalls | hslow
    · exact .inr (by linarith [hstop.2])
    · exact .inr hslow
  · exact ⟨le_max_left _ _, hbound, hmoves⟩

/-- A step of the WOT_PULL drivetrain. -/
theorem evolveWotPullDrivetrain_speed (output : ℚ) (hseconds : 0 ≤ seconds) (hone : seconds ≤ 1)
    (hspeed : 0 ≤ speed) (hle : speed ≤ maximumDetectableSpeed) (profile : VehicleProfile) :
    let later := (evolveWotPullDrivetrain speed output seconds
      profile).vehicleSpeedMetersPerSecond
    0 ≤ later ∧ later ≤ maximumDetectableSpeed ∧ SpeedMoves seconds speed later := by
  have hmaximum : maximumDetectableSpeed = 600 := rfl
  have hfrom : 0 ≤ clamp output 0 2 := le_clamp (by norm_num)
  have hto : clamp output 0 2 ≤ 2 := clamp_le
  simp only [evolveWotPullDrivetrain, kWotPullMaximumAccelerationMetersPerSecondSquared,
    kCityRollingDecelerationMetersPerSecondSquared, kCityDragDecelerationPerMeterPerSecond]
  refine ⟨le_max_left _ _, speed_le_of_acceleration hseconds hone hle (by linarith)
    (fun hfast => by linarith), speedMoves_of_acceleration hseconds hspeed ?_ (by linarith)⟩
  rw [hmaximum] at hle
  linarith

/-- What a step does to the speed. -/
theorem nextState_speed {simulation : VehicleSimulation} {inputs : ScenarioInputs}
    (hconsistent : simulation.Consistent)
    (hwell : inputs.WellFormed simulation.configuration.environment)
    (hone : simulation.deltaTimeSeconds ≤ 1)
    (hfits : SpeedFits simulation.configuration.scenario
      simulation.state.vehicleSpeedMetersPerSecond) (timestamp : UInt64) :
    let later := (simulation.nextState exp inputs timestamp).vehicleSpeedMetersPerSecond
    SpeedFits simulation.configuration.scenario later ∧
      SpeedMoves simulation.deltaTimeSeconds simulation.state.vehicleSpeedMetersPerSecond later := by
  have hdelta : 0 < simulation.deltaTimeSeconds := deltaTime_pos hconsistent
  intro later
  cases hengine : (startedState simulation.state inputs).engineRunning with
  | false =>
    have hlater : later = simulation.state.vehicleSpeedMetersPerSecond := by
      change (simulation.nextState exp inputs timestamp).vehicleSpeedMetersPerSecond = _
      rw [VehicleSimulation.nextState, evolveVehicleState_of_stopped exp hengine]
      rfl
    rw [hlater]
    exact ⟨hfits, by linarith, .inl (by linarith)⟩
  | true =>
    have hlater : later = (evolveScenario exp (startedState simulation.state inputs) inputs
        simulation.configuration.scenario simulation.configuration.vehicleProfile
        (calibrationProfile simulation.configuration.calibration)
        simulation.deltaTimeSeconds).vehicleSpeedMetersPerSecond := by
      change (simulation.nextState exp inputs timestamp).vehicleSpeedMetersPerSecond = _
      rw [VehicleSimulation.nextState, evolveVehicleState_of_running exp hengine]
      rfl
    rw [hlater]
    unfold evolveScenario
    split
    · next hcity =>
      obtain ⟨hnonneg, hle, hmoves⟩ := evolveCityDrivetrain_speed hwell.acceleratorPedalPosition
        hdelta.le hone hfits.nonneg hfits.le inputs.commandVehicleStationary
        simulation.configuration.vehicleProfile
      exact ⟨⟨hnonneg, hle, fun hne => absurd hcity hne⟩, hmoves⟩
    · next hpull =>
      obtain ⟨hnonneg, hle, hmoves⟩ := evolveWotPullDrivetrain_speed _ hdelta.le hone
        hfits.nonneg hfits.le simulation.configuration.vehicleProfile
      exact ⟨⟨hnonneg, hle, fun _ hne => absurd hpull hne⟩, hmoves⟩
    · next hcity hpull =>
      have hstands : (evolveStationary exp (startedState simulation.state inputs) inputs
          simulation.deltaTimeSeconds).vehicleSpeedMetersPerSecond = 0 := rfl
      rw [hstands, hfits.standing hcity hpull]
      exact ⟨⟨le_rfl, by norm_num [maximumDetectableSpeed], fun _ _ => rfl⟩, by linarith,
        .inl (by linarith)⟩

end Speed

end TunerOs
