-- SUMMARY: A fault that acts long enough shows in every state, and frames that show it violate the condition of its rule.
import TunerOs.Live.FalseAlarms
import TunerOs.Simulator.FaultResponse

/-!
# Symptoms

Each fault has the rule that detects it. `ShowsFault` is what the sensors observe of a
state on which the fault has acted long enough; carriers that show it violate the rule's
condition, with its activation thresholds and with its latched ones.
-/

namespace TunerOs

open VehicleNetworkSimulation

/-! ## Faults and their rules -/

/-- The messages that the rule reads. -/
def FaultId.encoders : FaultId → List FrameEncoder
  | .coolingSystemDegradation => [dmeThermalElectricalEncoder]
  | .chargingSystemFailure => [dmeThermalElectricalEncoder, dmeFastEngineEncoder]
  | .mapSensorBias => [dmeAirLoadEncoder, dmeFastEngineEncoder]
  | .frontLeftWheelSpeedSensorBias => [dscWheelSpeedsEncoderFrom, dscVehicleMotionEncoder]

theorem FaultId.rule_mem (id : FaultId) : id.rule ∈ defaultRules := by
  cases id
  · exact .head _
  · exact .tail _ (.tail _ (.head _))
  · exact .tail _ (.tail _ (.tail _ (.head _)))
  · exact .tail _ (.tail _ (.tail _ (.tail _ (.head _))))

/-- What the sensors observe of a state on which the fault has acted long enough. -/
def VehicleState.ShowsFault (state : VehicleState) (faults : List FaultConfiguration) :
    FaultId → Prop
  | .coolingSystemDegradation => 115.1 ≤ coolantSource.observed faults state
  | .chargingSystemFailure =>
    state.engineRunning = true ∧ batterySource.observed faults state ≤ 12.4
  | .mapSensorBias =>
    state.engineRunning = true ∧ 250.1 ≤ manifoldPressureSource.observed faults state
  | .frontLeftWheelSpeedSensorBias =>
    (activeFaultsAt faults state.timestamp).frontLeftWheelSpeedSensorBias = true ∧
      0 ≤ state.vehicleSpeedMetersPerSecond ∧
      state.vehicleSpeedMetersPerSecond ≤ maximumDetectableSpeed

/-! ## When a fault shows -/

/-- How long a fault takes to show from its onset on, in microseconds. -/
def SimulationRunConfiguration.delay (configuration : SimulationRunConfiguration) : FaultId → ℕ
  | .coolingSystemDegradation => ⌈kDegradedCoolingTimeConstantSeconds *
      (configuration.coolantDistance / 24.9 - 1) * kMicrosecondsPerSecond⌉₊
  | .chargingSystemFailure => ⌈kFailedChargingTimeConstantSeconds *
      (configuration.batteryDistance / 0.6 - 1) * kMicrosecondsPerSecond⌉₊
  | .mapSensorBias => 0
  | .frontLeftWheelSpeedSensorBias => 0

/-- The ambient pressure is high enough for the bias of a pressure sensor to show, and the vehicle
starts slow enough for the bias of a wheel's. -/
def SimulationRunConfiguration.Exposes (configuration : SimulationRunConfiguration) :
    FaultId → Prop
  | .coolingSystemDegradation => True
  | .chargingSystemFailure => True
  | .mapSensorBias => 75.25 ≤ configuration.environment.ambientPressureKpaAbsolute
  | .frontLeftWheelSpeedSensorBias =>
    configuration.initialConditions.vehicleSpeedMetersPerSecond ≤ maximumDetectableSpeed

/-- A distance whose bound has been divided by the time elapsed is as small as wanted. -/
theorem distance_le {distance bound limit timeConstant : ℚ} {onset : ℕ} {timestamp : UInt64}
    (hconstant : 0 < timeConstant) (hlimit : 0 < limit)
    (h : distance * (1 + secondsSince onset timestamp / timeConstant) ≤ bound)
    (hlate : onset + ⌈timeConstant * (bound / limit - 1) * kMicrosecondsPerSecond⌉₊ ≤
      timestamp.toNat) : distance ≤ limit := by
  have hmicroseconds : timeConstant * (bound / limit - 1) * kMicrosecondsPerSecond ≤
      ((timestamp.toNat - onset : ℕ) : ℚ) :=
    (Nat.le_ceil _).trans (Nat.cast_le.2 (by omega))
  have hseconds : timeConstant * (bound / limit - 1) ≤ secondsSince onset timestamp := by
    rw [secondsSince, le_div_iff₀ (by norm_num [kMicrosecondsPerSecond])]
    exact hmicroseconds
  have hratio : bound / limit ≤ 1 + secondsSince onset timestamp / timeConstant := by
    have hdivided : bound / limit - 1 ≤ secondsSince onset timestamp / timeConstant := by
      rw [le_div_iff₀ hconstant, mul_comm]
      exact hseconds
    linarith
  have hpositive : 0 < 1 + secondsSince onset timestamp / timeConstant := by
    have hnonneg := div_nonneg (secondsSince_nonneg onset timestamp) hconstant.le
    linarith
  rw [div_le_iff₀ hlimit] at hratio
  exact le_of_mul_le_mul_right (h.trans (hratio.trans_eq (mul_comm _ _))) hpositive

section Shows

variable {configuration : SimulationRunConfiguration} {fault : FaultConfiguration}
  {state : VehicleState}

/-- Once its delay is over, a fault shows in a state that responds to it. -/
theorem showsFault_of_responds (hfault : fault ∈ configuration.faults)
    (hruns : state.EngineRuns configuration) (hresponds : state.Responds configuration fault)
    (hpressure : state.PressureFits configuration)
    (hspeed : fault.id = .frontLeftWheelSpeedSensorBias →
      SpeedFits configuration.scenario state.vehicleSpeedMetersPerSecond)
    (hexposes : configuration.Exposes fault.id)
    (hbefore : ∀ time ∈ fault.deactivationTime, state.timestamp < time)
    (hlate : fault.onset configuration + configuration.delay fault.id ≤ state.timestamp.toNat) :
    state.ShowsFault configuration.faults fault.id := by
  have honset : fault.onset configuration ≤ state.timestamp.toNat :=
    (Nat.le_add_right _ _).trans hlate
  have hrunning := hruns ((le_max_right _ _).trans honset)
  have hactive : (activeFaultsAt configuration.faults state.timestamp).has fault.id = true := by
    rw [activeFaultsAt_has]
    exact ⟨fault, hfault, rfl, UInt64.le_iff_toNat_le.2 ((le_max_left _ _).trans honset), hbefore⟩
  obtain ⟨-, hcoolant, -, hbattery, -⟩ :=
    observe_dmeState (activeFaultsAt configuration.faults state.timestamp) state
  cases hid : fault.id with
  | coolingSystemDegradation =>
    rw [hid] at hlate
    have hdistance := distance_le (by norm_num [kDegradedCoolingTimeConstantSeconds])
      (by norm_num) (hresponds.coolant hid) hlate
    change 115.1 ≤ (observeSensors state configuration.faults).dmeState.coolantTemperatureCelsius
    rw [observeSensors, hcoolant]
    norm_num [kDegradedCoolingEquilibriumCelsius] at hdistance ⊢
    linarith
  | chargingSystemFailure =>
    rw [hid] at hlate
    have hdistance := distance_le (by norm_num [kFailedChargingTimeConstantSeconds])
      (by norm_num) (hresponds.battery hid) hlate
    refine ⟨hrunning, ?_⟩
    change (observeSensors state configuration.faults).dmeState.batteryVoltageVolts ≤ 12.4
    rw [observeSensors, hbattery]
    norm_num [kFailedChargingVoltageVolts] at hdistance ⊢
    linarith
  | mapSensorBias =>
    rw [hid] at hactive hexposes
    have hbias : (activeFaultsAt configuration.faults state.timestamp).mapSensorBias = true :=
      hactive
    have hambient : 75.25 ≤ configuration.environment.ambientPressureKpaAbsolute := hexposes
    have hlow := hpressure.low
    refine ⟨hrunning, ?_⟩
    change 250.1 ≤ (observeSensors state configuration.faults).dmeState.manifoldPressureKpaAbsolute
    rw [observeSensors, ActiveFaults.observe, hbias, if_pos rfl]
    refine le_max_of_le_right ?_
    norm_num [kIdleManifoldPressureFractionOfAmbient, kMapSensorBiasKpa] at hlow hambient ⊢
    linarith
  | frontLeftWheelSpeedSensorBias =>
    rw [hid] at hactive
    obtain ⟨hnonneg, hle, -⟩ := hspeed hid
    exact ⟨hactive, hnonneg, hle⟩

end Shows

/-! ## Carriers that show a fault -/

/-- The carriers of the messages that the fault's rule reads are fresh and show the fault. -/
structure Carriers.ShowFault (carriers : Carriers) (faults : List FaultConfiguration) (id : FaultId)
    (timestamp : ℕ) : Prop where
  carrier : ∀ encoder ∈ id.encoders, ∃ state,
    carriers encoder.message.arbitrationId = some state ∧ state.ShowsFault faults id ∧
      timestamp - state.timestamp.toNat ≤ 2 * encoder.period
  steady : id = .frontLeftWheelSpeedSensorBias → ∀ wheels motion,
    carriers dscWheelSpeedsEncoderFrom.message.arbitrationId = some wheels →
    carriers dscVehicleMotionEncoder.message.arbitrationId = some motion →
    |wheels.vehicleSpeedMetersPerSecond - motion.vehicleSpeedMetersPerSecond| < 1

/-- A speed that the frames can carry is shown to a hundredth of a metre per second. -/
theorem speed_value {encoder : FrameEncoder} (hencoder : encoder ∈ networkEncoders)
    {source : SignalSource} (hsource : source ∈ encoder.sources) (hscale : source.scale = 0.01)
    (hfactor : source.signal.factor = 0.01) (hoffset : source.signal.offset = 0)
    (hlevels : source.levels = 65535) (faults : List FaultConfiguration) {state : VehicleState}
    (hlow : 0 ≤ source.observed faults state) (hhigh : source.observed faults state ≤ 655) :
    |encoder.value faults source.signal state - source.observed faults state| ≤ 0.01 := by
  have hbound : |(Quantize.level source.levels source.scale source.signal.offset
      (source.observed faults state) : ℚ) * source.signal.factor + source.signal.offset -
        source.observed faults state| ≤ _ :=
    Quantize.abs_level_sub_le (by rw [hscale]; norm_num) (by rw [hoffset]; exact hlow)
      (by rw [hscale, hoffset, hlevels]; norm_num; linarith)
  rw [FrameEncoder.value_eq hencoder hsource]
  refine hbound.trans ?_
  rw [hscale, hfactor, sub_self, abs_zero, mul_zero]
  norm_num

/-- The source of the front left wheel's speed is the first of its frame. -/
def frontLeftWheelSpeedSource : SignalSource :=
  wheelSpeedSources.headD vehicleSpeedSource

section Violated

variable {snapshot : TelemetrySnapshot} {faults : List FaultConfiguration} {carriers : Carriers}
  {timestamp : ℕ} (hobserves : snapshot.Observes faults carriers timestamp)

include hobserves

theorem coolantTemperatureHigh_violated
    (h : carriers.ShowFault faults .coolingSystemDegradation timestamp) (active : Bool) :
    coolantTemperatureHigh.condition snapshot active = .ok .violation := by
  obtain ⟨state, hcarrier, hshows, -⟩ := h.carrier _ List.mem_cons_self
  have hnumber := hobserves.number_of_source dmeThermalElectrical_mem_network hcarrier
    coolantSource_mem (by decide)
  have hvalue := FrameEncoder.le_value dmeThermalElectrical_mem_network coolantSource_mem
    faults state (k := 2151) (by decide) (le_trans (by norm_num [coolantSource]) hshows)
  change HighThresholdCondition.evaluate _ snapshot active = _
  rw [HighThresholdCondition.evaluate_eq active _ hnumber]
  refine congrArg Except.ok (conditionResult_violation.2 (decide_eq_true ?_))
  norm_num [coolantSource] at hvalue ⊢
  cases active <;> norm_num <;> linarith

theorem chargingVoltageLow_violated
    (h : carriers.ShowFault faults .chargingSystemFailure timestamp) (active : Bool) :
    chargingVoltageLow.condition snapshot active = .ok .violation := by
  obtain ⟨state, hcarrier, ⟨-, hlow⟩, -⟩ := h.carrier _ List.mem_cons_self
  obtain ⟨engine, hengine, ⟨hrunning, -⟩, -⟩ :=
    h.carrier _ (List.mem_cons_of_mem _ List.mem_cons_self)
  have hnumber := hobserves.number_of_source dmeThermalElectrical_mem_network hcarrier
    batterySource_mem (by decide)
  have hvalue := FrameEncoder.value_le dmeThermalElectrical_mem_network batterySource_mem
    faults state (k := 124) (by decide) (hlow.trans (by norm_num [batterySource]))
  have hcontext := hobserves.boolean_engineRunning hengine
  rw [hrunning] at hcontext
  change LowWhileTrueCondition.evaluate _ snapshot active = _
  rw [LowWhileTrueCondition.evaluate_eq active _ hcontext hnumber]
  refine congrArg Except.ok (conditionResult_violation.2 (decide_eq_true ?_))
  norm_num [batterySource] at hvalue ⊢
  cases active <;> norm_num <;> linarith

theorem manifoldPressureImplausible_violated
    (h : carriers.ShowFault faults .mapSensorBias timestamp) (active : Bool) :
    manifoldPressureImplausible.condition snapshot active = .ok .violation := by
  obtain ⟨state, hcarrier, ⟨-, hhigh⟩, -⟩ := h.carrier _ List.mem_cons_self
  obtain ⟨engine, hengine, ⟨hrunning, -⟩, -⟩ :=
    h.carrier _ (List.mem_cons_of_mem _ List.mem_cons_self)
  have hnumber := hobserves.number_of_source dmeAirLoad_mem_network hcarrier
    manifoldPressureSource_mem (by decide)
  have hvalue := FrameEncoder.le_value dmeAirLoad_mem_network manifoldPressureSource_mem
    faults state (k := 2501) (by decide) (le_trans (by norm_num [manifoldPressureSource]) hhigh)
  have hcontext := hobserves.boolean_engineRunning hengine
  rw [hrunning] at hcontext
  change OutsideRangeWhileTrueCondition.evaluate _ snapshot active = _
  rw [OutsideRangeWhileTrueCondition.evaluate_eq active _ hcontext hnumber]
  refine congrArg Except.ok (conditionResult_violation.2 ?_)
  rw [Bool.true_and, Bool.or_eq_true, decide_eq_true_eq, decide_eq_true_eq]
  norm_num [manifoldPressureSource] at hvalue ⊢
  refine .inr ?_
  cases active <;> norm_num <;> linarith

theorem wheelSpeedDisagreement_violated
    (h : carriers.ShowFault faults .frontLeftWheelSpeedSensorBias timestamp) (active : Bool) :
    wheelSpeedDisagreement.condition snapshot active = .ok .violation := by
  obtain ⟨wheels, hwheels, ⟨hbias, hnonneg, hle⟩, -⟩ := h.carrier _ List.mem_cons_self
  obtain ⟨motion, hmotion, ⟨-, hmotionNonneg, hmotionLe⟩, -⟩ :=
    h.carrier _ (List.mem_cons_of_mem _ List.mem_cons_self)
  have hsteady := abs_sub_lt_iff.1 (h.steady rfl wheels motion hwheels hmotion)
  have hmaximum : maximumDetectableSpeed = 600 := rfl
  rw [hmaximum] at hle hmotionLe
  have hbiased : frontLeftWheelSpeedSource.observed faults wheels =
      wheels.vehicleSpeedMetersPerSecond + 5 := by
    change (observeSensors wheels faults).wheelSpeedsMetersPerSecond.get 0 = _
    rw [observeSensors, ActiveFaults.observe, hbias]
    exact max_eq_right (add_nonneg hnonneg (by norm_num [kFrontLeftWheelSpeedSensorBiasMetersPerSecond]))
  have htrue : vehicleSpeedSource.observed faults motion = motion.vehicleSpeedMetersPerSecond :=
    (observe_dmeState _ motion).2.2.2.2
  have hsource : frontLeftWheelSpeedSource ∈ dscWheelSpeedsEncoderFrom.sources := .head _
  have hshown := speed_value dscWheelSpeeds_mem_network hsource rfl rfl rfl rfl faults
    (by rw [hbiased]; linarith) (by rw [hbiased]; linarith)
  have hreference := speed_value dscVehicleMotion_mem_network vehicleSpeedSource_mem
    rfl rfl rfl rfl faults (by rw [htrue]; exact hmotionNonneg)
    (by rw [htrue]; linarith)
  rw [hbiased, abs_le] at hshown
  rw [htrue, abs_le] at hreference
  have hmotionNumber := hobserves.number_of_source dscVehicleMotion_mem_network hmotion
    vehicleSpeedSource_mem (by decide)
  have hwheelNumber := hobserves.number_of_source dscWheelSpeeds_mem_network hwheels hsource
    (by decide)
  have hnumbers : ∀ key ∈ wheelSpeeds, ∃ value, number snapshot key = .ok value := by
    intro key hkey
    obtain ⟨source, -, hnumber⟩ := exists_wheelSpeeds hobserves hwheels hkey
    exact ⟨_, hnumber⟩
  choose! values hvalues using hnumbers
  have hkey : SignalKey.frontLeftWheelSpeed ∈ wheelSpeeds := List.mem_cons_self
  have hvalue := Except.ok.inj ((hvalues _ hkey).symm.trans hwheelNumber)
  change SignalDisagreementCondition.evaluate _ snapshot active = _
  rw [SignalDisagreementCondition.evaluate_eq active _ (List.cons_ne_nil _ _) hmotionNumber hvalues]
  refine congrArg Except.ok (conditionResult_violation.2 (decide_eq_true ⟨_, hkey, ?_⟩))
  rw [hvalue]
  refine lt_of_lt_of_le ?_ (le_abs_self _)
  norm_num at hshown hreference
  cases active <;> norm_num <;> linarith

/-- Carriers that show a fault violate the condition of its rule, under both thresholds. -/
theorem violated_of_showFault {id : FaultId} (h : carriers.ShowFault faults id timestamp) :
    id.rule.InputsFresh snapshot ∧
      ∀ active, id.rule.condition snapshot active = .ok .violation := by
  have hfresh : ∀ encoder ∈ id.encoders, carriers.FreshAt encoder timestamp := by
    intro encoder hencoder
    obtain ⟨state, hcarrier, -, hage⟩ := h.carrier encoder hencoder
    exact ⟨state, hcarrier, hage⟩
  cases id with
  | coolingSystemDegradation =>
    refine ⟨(coolantTemperatureHigh_inputs.inputsFresh_iff hobserves).2 ?_,
      coolantTemperatureHigh_violated hobserves h⟩
    exact fun input hinput => hfresh input.1 (List.mem_map_of_mem (f := Prod.fst) hinput)
  | chargingSystemFailure =>
    refine ⟨(chargingVoltageLow_inputs.inputsFresh_iff hobserves).2 ?_,
      chargingVoltageLow_violated hobserves h⟩
    exact fun input hinput => hfresh input.1 (List.mem_map_of_mem (f := Prod.fst) hinput)
  | mapSensorBias =>
    refine ⟨(manifoldPressureImplausible_inputs.inputsFresh_iff hobserves).2 ?_,
      manifoldPressureImplausible_violated hobserves h⟩
    exact fun input hinput => hfresh input.1 (List.mem_map_of_mem (f := Prod.fst) hinput)
  | frontLeftWheelSpeedSensorBias =>
    refine ⟨(wheelSpeedDisagreement_inputs.inputsFresh_iff hobserves).2 ?_,
      wheelSpeedDisagreement_violated hobserves h⟩
    intro input hinput
    obtain hwheels | hmotion := List.mem_append.1 hinput
    · obtain ⟨source, -, rfl⟩ := List.mem_map.1 hwheels
      exact hfresh _ List.mem_cons_self
    · rw [List.mem_singleton.1 hmotion]
      exact hfresh _ (List.mem_cons_of_mem _ List.mem_cons_self)

end Violated

end TunerOs
