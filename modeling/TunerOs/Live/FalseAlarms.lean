-- SUMMARY: Every trouble code of a live source has a configured fault behind it, which was activated by the time the code was first detected.
import TunerOs.Live.CoarseSteps
import TunerOs.Simulator.NominalRun

/-!
# No false alarms

The carriers of a run are nominal states, so the values that rules read violate a
condition only once the fault that acts on them is activated. Wheel and vehicle speeds
come in two frames of one state; between them they may disagree, but what is detected
there is dropped by the second frame.
-/

namespace TunerOs

open Containers VehicleNetworkSimulation VehicleNetworkPublisher

/-! ## The published states are nominal -/

theorem runTicks_nominal {exp : ℚ → ℚ} (hexp : IsFactor exp)
    {configuration : SimulationRunConfiguration} {fresh : VehicleNetworkSimulation}
    (hcreate : VehicleNetworkSimulation.create configuration {} {} = .ok fresh)
    (hstarts : configuration.StartsNominal) {count : ℕ} {states : List VehicleState}
    {network : VehicleNetworkSimulation} (hrun : fresh.runTicks exp count = .ok (states, network)) :
    ∀ state ∈ states, state.Nominal configuration := by
  refine runTicks_forall (·.Nominal configuration) hcreate
    (fun state haccepted hmake => nominal_initial haccepted hmake hstarts) ?_ hrun
  rintro vehicle inputs rfl hconsistent hrunning hinputs hnominal
  have hlater : vehicle.state.timestamp.toNat ≤
      (vehicle.clock.timestamp + vehicle.clock.fixedStep).toNat := by
    rw [hconsistent.timestamp, (VehicleSimulation.toNat_add_fixedStep hconsistent hrunning).1]
    exact Nat.le_add_right _ _
  exact hnominal.nextState hexp hconsistent (wellFormed_of_inputs hconsistent hinputs) hlater

/-! ## Records and when they were first detected -/

/-- The rule has no record but one that entered `PENDING` from none at this time. -/
structure RuleState.Provisional (state : RuleState) (timestamp : ℕ) : Prop where
  record : ∀ dtc ∈ state.dtc, dtc.status = .pending ∧
    dtc.firstDetectedTimestampMicroseconds = timestamp
  origin : state.pendingOrigin = none

namespace DiagnosticRule

variable {rule : DiagnosticRule} {state : RuleState} {snapshot : TelemetrySnapshot} {timestamp : ℕ}

theorem inactive_of_none (hnone : state.dtc = none) : state.status ≠ some .active := by
  rw [RuleState.status, hnone]
  exact fun hsome => Option.some_ne_none _ hsome.symm

theorem enterPending_firstDetected (rule : DiagnosticRule) (state : RuleState) (timestamp : ℕ) :
    (rule.enterPending state timestamp).record.firstDetectedTimestampMicroseconds =
      (state.dtc.map (·.firstDetectedTimestampMicroseconds)).getD timestamp := by
  unfold enterPending
  cases hdtc : state.dtc with
  | none => rfl
  | some dtc =>
    simp only []
    split <;> rfl

theorem handleViolation_firstDetected {dtc : DiagnosticTroubleCode}
    (h : dtc ∈ (rule.handleViolation state snapshot timestamp).state.dtc) :
    dtc.firstDetectedTimestampMicroseconds =
      (state.dtc.map (·.firstDetectedTimestampMicroseconds)).getD timestamp := by
  by_cases hactive : state.status = some .active
  · obtain ⟨earlier, hearlier, hstatus⟩ := Option.map_eq_some_iff.1 hactive
    rw [handleViolation_seen hearlier hstatus] at h
    cases h
    rw [hearlier]
    rfl
  · by_cases hdue : (rule.enterPending state timestamp).started +
        rule.definition.confirmationDurationMicroseconds ≤ timestamp
    · rw [handleViolation_confirm hactive hdue, confirm] at h
      split at h <;>
      · cases h
        exact enterPending_firstDetected rule state timestamp
    · rw [handleViolation_waiting hactive hdue] at h
      cases h
      exact enterPending_firstDetected rule state timestamp

theorem handleNormal_firstDetected {dtc : DiagnosticTroubleCode}
    (h : dtc ∈ (rule.handleNormal state timestamp).state.dtc) :
    ∃ earlier ∈ state.dtc, dtc.firstDetectedTimestampMicroseconds =
      earlier.firstDetectedTimestampMicroseconds := by
  cases hdtc : state.dtc with
  | none =>
    rw [handleNormal_none hdtc] at h
    rw [hdtc] at h
    cases h
  | some earlier =>
    refine ⟨earlier, rfl, ?_⟩
    by_cases hpending : earlier.status = .pending
    · rw [handleNormal_pending hdtc hpending] at h
      obtain ⟨status, -, rfl⟩ := Option.map_eq_some_iff.1 h
      rfl
    · by_cases hactive : earlier.status = .active
      · by_cases hdue : state.recoveryStartedTimestampMicroseconds.getD timestamp +
            rule.definition.recoveryDurationMicroseconds ≤ timestamp
        · rw [handleNormal_recovered hdtc hactive hdue] at h
          cases h
          rfl
        · rw [handleNormal_recovering hdtc hactive hdue] at h
          cases hdtc.symm.trans h
          rfl
      · rw [handleNormal_closed hdtc hpending hactive] at h
        cases hdtc.symm.trans h
        rfl

/-- A record that an evaluation leaves was there before, or its condition is violated now. -/
theorem evaluate_firstDetected {dtc : DiagnosticTroubleCode}
    (h : dtc ∈ (rule.evaluate state snapshot timestamp).state.dtc) :
    (∃ earlier ∈ state.dtc, dtc.firstDetectedTimestampMicroseconds =
        earlier.firstDetectedTimestampMicroseconds) ∨
      state.dtc = none ∧ rule.Violates snapshot ∧
        dtc.firstDetectedTimestampMicroseconds = timestamp := by
  by_cases hfresh : rule.InputsFresh snapshot
  · cases hcondition : rule.condition snapshot (state.status = some .active) with
    | error error =>
      rw [evaluate_error hfresh hcondition] at h
      exact .inl ⟨dtc, h, rfl⟩
    | ok result =>
      cases result with
      | violation =>
        rw [evaluate_violation hfresh hcondition] at h
        have hfirst := handleViolation_firstDetected h
        cases hdtc : state.dtc with
        | none =>
          rw [decide_eq_false (inactive_of_none hdtc)] at hcondition
          exact .inr ⟨rfl, ⟨hfresh, hcondition⟩, by rw [hfirst, hdtc]; rfl⟩
        | some earlier => exact .inl ⟨earlier, rfl, by rw [hfirst, hdtc]; rfl⟩
      | normal =>
        rw [evaluate_normal hfresh hcondition] at h
        exact .inl (handleNormal_firstDetected h)
  · rw [evaluate_stale hfresh] at h
    exact .inl ⟨dtc, h, rfl⟩

/-- A violation where there is no record leaves a provisional one. -/
theorem handleViolation_enters (hnone : state.dtc = none)
    (hconfirmation : 0 < rule.definition.confirmationDurationMicroseconds) :
    (rule.handleViolation state snapshot timestamp).state.Provisional timestamp := by
  have hinactive := inactive_of_none hnone
  have hentry : rule.enterPending state timestamp = ⟨timestamp, rule.pendingRecord none timestamp,
      none, [⟨.conditionDetected, none, some .pending⟩]⟩ := by
    simp only [enterPending, hnone]
  rw [handleViolation_waiting hinactive (by rw [hentry]; dsimp only; omega), hentry]
  refine ⟨?_, rfl⟩
  rintro dtc ⟨⟩
  exact ⟨rfl, rfl⟩

theorem evaluate_enters (hnone : state.dtc = none) (hviolates : rule.Violates snapshot)
    (hconfirmation : 0 < rule.definition.confirmationDurationMicroseconds) :
    (rule.evaluate state snapshot timestamp).state.Provisional timestamp := by
  have hinactive := inactive_of_none hnone
  have hcondition := hviolates.2
  rw [← decide_eq_false hinactive] at hcondition
  rw [evaluate_violation hviolates.1 hcondition]
  exact handleViolation_enters hnone hconfirmation

/-- A provisional record stays only if the condition is violated by the next evaluation at the same
time. -/
theorem evaluate_provisional {dtc : DiagnosticTroubleCode} {result : ConditionResult}
    (hprovisional : state.Provisional timestamp) (hfresh : rule.InputsFresh snapshot)
    (hcondition : rule.condition snapshot false = .ok result)
    (h : dtc ∈ (rule.evaluate state snapshot timestamp).state.dtc) :
    rule.Violates snapshot ∧ dtc.firstDetectedTimestampMicroseconds = timestamp := by
  have hinactive : state.status ≠ some .active := by
    intro hactive
    obtain ⟨earlier, hearlier, hstatus⟩ := Option.map_eq_some_iff.1 hactive
    rw [(hprovisional.record earlier hearlier).1] at hstatus
    cases hstatus
  have hsame : rule.condition snapshot (state.status = some .active) = .ok result := by
    rw [decide_eq_false hinactive]
    exact hcondition
  cases result with
  | violation =>
    refine ⟨⟨hfresh, hcondition⟩, ?_⟩
    rw [evaluate_violation hfresh hsame] at h
    rw [handleViolation_firstDetected h]
    cases hdtc : state.dtc with
    | none => rfl
    | some earlier => exact (hprovisional.record earlier hdtc).2
  | normal =>
    rw [evaluate_normal hfresh hsame] at h
    cases hdtc : state.dtc with
    | none =>
      rw [handleNormal_none hdtc, hdtc] at h
      cases h
    | some earlier =>
      rw [handleNormal_pending hdtc (hprovisional.record earlier hdtc).1, hprovisional.origin] at h
      cases h

end DiagnosticRule

/-! ## What explains a trouble code -/

theorem conditionResult_violation {violated : Bool} :
    conditionResult violated = .violation ↔ violated = true := by
  cases violated <;> decide

/-- The rule that detects a fault. High oil temperature is a symptom of none. -/
def FaultId.rule : FaultId → DiagnosticRule
  | .coolingSystemDegradation => coolantTemperatureHigh
  | .chargingSystemFailure => chargingVoltageLow
  | .mapSensorBias => manifoldPressureImplausible
  | .frontLeftWheelSpeedSensorBias => wheelSpeedDisagreement

/-- A configured fault that the code is a symptom of was activated by this time. -/
def Explained (faults : List FaultConfiguration) (code : String) (timestamp : ℕ) : Prop :=
  ∃ fault ∈ faults, fault.id.rule.code = code ∧ fault.activationTime.toNat ≤ timestamp

theorem explained_of_not_notYet (id : FaultId) {faults : List FaultConfiguration}
    {activated : UInt64} {timestamp : ℕ} (h : ¬ NotYet faults id activated)
    (hle : activated.toNat ≤ timestamp) : Explained faults id.rule.code timestamp := by
  unfold NotYet at h
  push Not at h
  obtain ⟨fault, hmem, rfl, hactivated⟩ := h
  exact ⟨fault, hmem, rfl, (UInt64.le_iff_toNat_le.1 (UInt64.not_lt.1 hactivated)).trans hle⟩

/-- The records of the code are explained by the time at which they were first detected. -/
def RuleState.Explained (state : RuleState) (faults : List FaultConfiguration) (code : String) :
    Prop :=
  ∀ dtc ∈ state.dtc, TunerOs.Explained faults code dtc.firstDetectedTimestampMicroseconds

/-- An evaluation whose violation is explained keeps records explained. -/
theorem RuleState.Explained.evaluate {rule : DiagnosticRule} {state : RuleState}
    {snapshot : TelemetrySnapshot} {faults : List FaultConfiguration} {timestamp : ℕ}
    (h : state.Explained faults rule.code)
    (hviolates : rule.Violates snapshot → TunerOs.Explained faults rule.code timestamp) :
    (rule.evaluate state snapshot timestamp).state.Explained faults rule.code := by
  intro dtc hdtc
  rcases DiagnosticRule.evaluate_firstDetected hdtc with ⟨earlier, hmem, heq⟩ | ⟨-, hviolated, heq⟩
  · rw [heq]
    exact h earlier hmem
  · rw [heq]
    exact hviolates hviolated

/-! ## The four rules of the DME -/

/-- The carriers are nominal states of no later time. -/
def Carriers.Nominal (carriers : Carriers) (configuration : SimulationRunConfiguration)
    (timestamp : ℕ) : Prop :=
  ∀ arbitrationId state, carriers arbitrationId = some state →
    state.Nominal configuration ∧ state.timestamp.toNat ≤ timestamp

section DmeRules

variable {snapshot : TelemetrySnapshot} {configuration : SimulationRunConfiguration}
  {carriers : Carriers} {timestamp : ℕ}
  (hobserves : snapshot.Observes configuration.faults carriers timestamp)
  (hnominal : carriers.Nominal configuration timestamp)

include hobserves hnominal

theorem coolantTemperatureHigh_explained (hviolates : coolantTemperatureHigh.Violates snapshot) :
    Explained configuration.faults coolantTemperatureHigh.code timestamp := by
  obtain ⟨state, hcarrier, -⟩ :=
    (coolantTemperatureHigh_inputs.inputsFresh_iff hobserves).1 hviolates.1 _ List.mem_cons_self
  obtain ⟨hstate, hle⟩ := hnominal _ state hcarrier
  have hnumber := hobserves.number_of_source dmeThermalElectrical_mem_network hcarrier
    coolantSource_mem (by decide)
  have hhigh := hviolates.2
  change HighThresholdCondition.evaluate _ snapshot false = _ at hhigh
  rw [HighThresholdCondition.evaluate_eq false _ hnumber] at hhigh
  have habove := of_decide_eq_true (conditionResult_violation.1 (Except.ok.inj hhigh))
  refine explained_of_not_notYet .coolingSystemDegradation (fun hyet => ?_) hle
  have hfield : coolantSource.observed configuration.faults state =
      state.coolantTemperatureCelsius := (observe_dmeState _ state).2.1
  have hvalue := FrameEncoder.value_le dmeThermalElectrical_mem_network coolantSource_mem
    configuration.faults state (k := 2150) (by decide) (by
      rw [hfield]
      exact (hstate.coolant hyet).trans (by norm_num [coolantSource]))
  norm_num [coolantSource] at hvalue habove
  linarith

/-- High oil temperature is never detected: no fault heats the oil. -/
theorem not_oilTemperatureHigh : ¬ oilTemperatureHigh.Violates snapshot := by
  intro hviolates
  obtain ⟨state, hcarrier, -⟩ :=
    (oilTemperatureHigh_inputs.inputsFresh_iff hobserves).1 hviolates.1 _ List.mem_cons_self
  obtain ⟨hstate, -⟩ := hnominal _ state hcarrier
  have hnumber := hobserves.number_of_source dmeThermalElectrical_mem_network hcarrier
    oilSource_mem (by decide)
  have hhigh := hviolates.2
  change HighThresholdCondition.evaluate _ snapshot false = _ at hhigh
  rw [HighThresholdCondition.evaluate_eq false _ hnumber] at hhigh
  have habove := of_decide_eq_true (conditionResult_violation.1 (Except.ok.inj hhigh))
  have hfield : oilSource.observed configuration.faults state = state.oilTemperatureCelsius :=
    (observe_dmeState _ state).2.2.1
  have hvalue := FrameEncoder.value_le dmeThermalElectrical_mem_network oilSource_mem
    configuration.faults state (k := 2350) (by decide) (by
      rw [hfield]
      exact hstate.oil.trans (by norm_num [oilSource]))
  norm_num [oilSource] at hvalue habove
  linarith

theorem chargingVoltageLow_explained (hviolates : chargingVoltageLow.Violates snapshot) :
    Explained configuration.faults chargingVoltageLow.code timestamp := by
  have hfresh := (chargingVoltageLow_inputs.inputsFresh_iff hobserves).1 hviolates.1
  obtain ⟨state, hcarrier, -⟩ := hfresh _ List.mem_cons_self
  obtain ⟨engine, hengine, -⟩ := hfresh _ (List.mem_cons_of_mem _ List.mem_cons_self)
  obtain ⟨hstate, hle⟩ := hnominal _ state hcarrier
  have hnumber := hobserves.number_of_source dmeThermalElectrical_mem_network hcarrier
    batterySource_mem (by decide)
  have hlow := hviolates.2
  change LowWhileTrueCondition.evaluate _ snapshot false = _ at hlow
  rw [LowWhileTrueCondition.evaluate_eq false _ (hobserves.boolean_engineRunning hengine) hnumber]
    at hlow
  have hviolated := conditionResult_violation.1 (Except.ok.inj hlow)
  rw [Bool.and_eq_true, decide_eq_true_eq] at hviolated
  have hbelow := hviolated.2
  refine explained_of_not_notYet .chargingSystemFailure (fun hyet => ?_) hle
  have hfield : batterySource.observed configuration.faults state = state.batteryVoltageVolts :=
    (observe_dmeState _ state).2.2.2.1
  have hvalue := FrameEncoder.le_value dmeThermalElectrical_mem_network batterySource_mem
    configuration.faults state (k := 125) (by decide) (by
      rw [hfield]
      exact le_trans (by norm_num [batterySource]) (hstate.battery hyet))
  norm_num [batterySource] at hvalue hbelow
  linarith

theorem manifoldPressureImplausible_explained (hstarts : configuration.StartsNominal)
    (hviolates : manifoldPressureImplausible.Violates snapshot) :
    Explained configuration.faults manifoldPressureImplausible.code timestamp := by
  have hfresh := (manifoldPressureImplausible_inputs.inputsFresh_iff hobserves).1 hviolates.1
  obtain ⟨state, hcarrier, -⟩ := hfresh _ List.mem_cons_self
  obtain ⟨engine, hengine, -⟩ := hfresh _ (List.mem_cons_of_mem _ List.mem_cons_self)
  obtain ⟨hstate, hle⟩ := hnominal _ state hcarrier
  have hnumber := hobserves.number_of_source dmeAirLoad_mem_network hcarrier
    manifoldPressureSource_mem (by decide)
  have houtside := hviolates.2
  change OutsideRangeWhileTrueCondition.evaluate _ snapshot false = _ at houtside
  rw [OutsideRangeWhileTrueCondition.evaluate_eq false _ (hobserves.boolean_engineRunning hengine)
    hnumber] at houtside
  have hviolated := conditionResult_violation.1 (Except.ok.inj houtside)
  rw [Bool.and_eq_true, Bool.or_eq_true, decide_eq_true_eq, decide_eq_true_eq] at hviolated
  refine explained_of_not_notYet .mapSensorBias (fun hyet => ?_) hle
  have hfield : manifoldPressureSource.observed configuration.faults state =
      state.manifoldPressureKpaAbsolute := by
    have hinactive : (activeFaultsAt configuration.faults state.timestamp).mapSensorBias = false :=
      hyet.inactive
    change (observeSensors state configuration.faults).dmeState.manifoldPressureKpaAbsolute = _
    rw [observeSensors, ActiveFaults.observe, hinactive, if_neg Bool.false_ne_true]
  have hlow := hstate.pressure.low
  have hhigh := hstate.pressure.high
  have hambientLow := hstarts.ambientLow
  have hambientHigh := hstarts.ambientHigh
  norm_num [kIdleManifoldPressureFractionOfAmbient, maximumBoostTargetKpaGauge] at hlow hhigh
  have hfrom := FrameEncoder.le_value dmeAirLoad_mem_network manifoldPressureSource_mem
    configuration.faults state (k := 100) (by decide) (by
      rw [hfield]
      norm_num [manifoldPressureSource]
      linarith)
  have hto := FrameEncoder.value_le dmeAirLoad_mem_network manifoldPressureSource_mem
    configuration.faults state (k := 2500) (by decide) (by
      rw [hfield]
      norm_num [manifoldPressureSource]
      linarith)
  norm_num [manifoldPressureSource] at hfrom hto hviolated
  rcases hviolated.2 with hbelow | habove <;> linarith

end DmeRules

/-! ## The rule of the DSC -/

/-- The carriers of wheel speeds and of vehicle speed are the same. -/
def Carriers.Synced (carriers : Carriers) : Prop :=
  carriers dscVehicleMotionEncoder.message.arbitrationId =
    carriers dscWheelSpeedsEncoderFrom.message.arbitrationId

/-- An unbiased wheel speed sensor shows what the speed sensor shows. -/
theorem wheelSpeed_value {faults : List FaultConfiguration} {state : VehicleState}
    (hyet : NotYet faults .frontLeftWheelSpeedSensorBias state.timestamp) {source : SignalSource}
    (hsource : source ∈ wheelSpeedSources) :
    dscWheelSpeedsEncoderFrom.value faults source.signal state =
      dscVehicleMotionEncoder.value faults vehicleSpeedSource.signal state := by
  have hinactive : (activeFaultsAt faults state.timestamp).frontLeftWheelSpeedSensorBias = false :=
    hyet.inactive
  have hspeeds : (observeSensors state faults).wheelSpeedsMetersPerSecond =
      Vector.replicate 4 state.vehicleSpeedMetersPerSecond := by
    simp only [observeSensors, ActiveFaults.observe, hinactive, Bool.false_eq_true, if_false]
  have hspeed : vehicleSpeedSource.observed faults state = state.vehicleSpeedMetersPerSecond :=
    (observe_dmeState _ state).2.2.2.2
  rw [FrameEncoder.value_eq dscWheelSpeeds_mem_network hsource,
    FrameEncoder.value_eq dscVehicleMotion_mem_network vehicleSpeedSource_mem, hspeed,
    SignalSource.observed, hspeeds]
  simp only [wheelSpeedSources, dscWheelSpeedsEncoderFrom, sourcesOf, dscWheelSpeeds,
    List.zipWith_cons_cons, List.zipWith_nil_left, List.mem_cons, List.not_mem_nil, or_false]
    at hsource
  rcases hsource with rfl | rfl | rfl | rfl <;> rfl

/-- The wheel speeds of a snapshot are those of the wheels' carrier. -/
theorem exists_wheelSpeeds {snapshot : TelemetrySnapshot} {faults : List FaultConfiguration}
    {carriers : Carriers} {timestamp : ℕ} {state : VehicleState}
    (hobserves : snapshot.Observes faults carriers timestamp)
    (hwheels : carriers dscWheelSpeedsEncoderFrom.message.arbitrationId = some state)
    {key : SignalKey} (hkey : key ∈ wheelSpeeds) :
    ∃ source ∈ wheelSpeedSources, number snapshot key =
      .ok (dscWheelSpeedsEncoderFrom.value faults source.signal state) := by
  have hkeys : wheelSpeeds =
      wheelSpeedSources.map (fun source => dscWheelSpeedsEncoderFrom.key source.signal) := rfl
  rw [hkeys] at hkey
  obtain ⟨source, hsource, rfl⟩ := List.mem_map.1 hkey
  refine ⟨source, hsource,
    hobserves.number_of_source dscWheelSpeeds_mem_network hwheels hsource ?_⟩
  have hnames : ∀ source ∈ wheelSpeedSources, source.signal.name ≠ "EngineRunning" := by
    simp only [wheelSpeedSources, dscWheelSpeedsEncoderFrom, sourcesOf, dscWheelSpeeds,
      List.zipWith_cons_cons, List.zipWith_nil_left, List.forall_mem_cons]
    decide
  exact hnames source hsource

/-- With carriers of both its messages the rule's condition returns. -/
theorem wheelSpeedDisagreement_returns {snapshot : TelemetrySnapshot}
    {faults : List FaultConfiguration} {carriers : Carriers} {timestamp : ℕ}
    {motion wheels : VehicleState} (hobserves : snapshot.Observes faults carriers timestamp)
    (hmotion : carriers dscVehicleMotionEncoder.message.arbitrationId = some motion)
    (hwheels : carriers dscWheelSpeedsEncoderFrom.message.arbitrationId = some wheels) :
    ∃ result, wheelSpeedDisagreement.condition snapshot false = .ok result := by
  have hnumbers : ∀ key ∈ wheelSpeeds, ∃ value, number snapshot key = .ok value := by
    intro key hkey
    obtain ⟨source, -, hnumber⟩ := exists_wheelSpeeds hobserves hwheels hkey
    exact ⟨_, hnumber⟩
  choose! values hvalues using hnumbers
  have hreference := hobserves.number_of_source dscVehicleMotion_mem_network hmotion
    vehicleSpeedSource_mem (by decide)
  exact ⟨_, SignalDisagreementCondition.evaluate_eq false _ (List.cons_ne_nil _ _) hreference
    hvalues⟩

/-- While the wheels' carrier is the vehicle's, only a biased sensor makes them disagree. -/
theorem wheelSpeedDisagreement_explained {snapshot : TelemetrySnapshot}
    {configuration : SimulationRunConfiguration} {carriers : Carriers} {timestamp : ℕ}
    (hobserves : snapshot.Observes configuration.faults carriers timestamp)
    (hnominal : carriers.Nominal configuration timestamp) (hsynced : carriers.Synced)
    (hviolates : wheelSpeedDisagreement.Violates snapshot) :
    Explained configuration.faults wheelSpeedDisagreement.code timestamp := by
  have hfresh := (wheelSpeedDisagreement_inputs.inputsFresh_iff hobserves).1 hviolates.1
  obtain ⟨state, hmotion, -⟩ := hfresh _ (List.mem_append_right _ List.mem_cons_self)
  have hwheels := hsynced.symm.trans hmotion
  have hreference := hobserves.number_of_source dscVehicleMotion_mem_network hmotion
    vehicleSpeedSource_mem (by decide)
  refine explained_of_not_notYet .frontLeftWheelSpeedSensorBias (fun hyet => ?_)
    (hnominal _ state hmotion).2
  have hvalues : ∀ key ∈ wheelSpeeds, number snapshot key =
      .ok (dscVehicleMotionEncoder.value configuration.faults vehicleSpeedSource.signal state) := by
    intro key hkey
    obtain ⟨source, hsource, hnumber⟩ := exists_wheelSpeeds hobserves hwheels hkey
    rw [hnumber, wheelSpeed_value hyet hsource]
  have hdisagree := hviolates.2
  change SignalDisagreementCondition.evaluate _ snapshot false = _ at hdisagree
  rw [SignalDisagreementCondition.evaluate_eq false _ (List.cons_ne_nil _ _) hreference hvalues]
    at hdisagree
  obtain ⟨-, -, hdelta⟩ :=
    of_decide_eq_true (conditionResult_violation.1 (Except.ok.inj hdisagree))
  norm_num at hdelta

/-! ## Frames and batches -/

section Frames

variable {messageDecode : DbcMessage → Bytes → Option (Dict String CanmatrixValue)}
  {configuration : SimulationRunConfiguration} {carriers last : Carriers}
  {pipeline next reached : Pipeline} {rule : DiagnosticRule} {state : VehicleState}
  {encoder : FrameEncoder} {timestamp : ℕ}

/-- A frame after which the wheels' carrier is the vehicle's keeps records explained. -/
theorem Pipeline.Took.explained
    (took : Pipeline.Took messageDecode configuration.faults carriers timestamp pipeline next)
    (hstarts : configuration.StartsNominal) (hnominal : carriers.Nominal configuration timestamp)
    (hrule : rule ∈ defaultRules) (hsynced : rule.code = wheelSpeedDisagreement.code → carriers.Synced)
    (h : (pipeline.ruleState rule).Explained configuration.faults rule.code) :
    (next.ruleState rule).Explained configuration.faults rule.code := by
  obtain ⟨snapshot, -, hobserves, hevaluated⟩ := took.evaluated
  rw [Pipeline.ruleState, (hevaluated rule hrule).2]
  refine h.evaluate fun hviolates => ?_
  simp only [defaultRules, List.mem_cons, List.not_mem_nil, or_false] at hrule
  rcases hrule with rfl | rfl | rfl | rfl | rfl
  · exact coolantTemperatureHigh_explained hobserves hnominal hviolates
  · exact (not_oilTemperatureHigh hobserves hnominal hviolates).elim
  · exact chargingVoltageLow_explained hobserves hnominal hviolates
  · exact manifoldPressureImplausible_explained hobserves hnominal hstarts hviolates
  · exact wheelSpeedDisagreement_explained hobserves hnominal (hsynced rfl) hviolates

theorem Carriers.Nominal.moved (hnominal : carriers.Nominal configuration timestamp)
    (hstate : state.Nominal configuration) (hle : state.timestamp.toNat ≤ timestamp) :
    (carriers.moved encoder state).Nominal configuration timestamp := by
  intro arbitrationId carrier hcarrier
  by_cases hsame : arbitrationId = encoder.message.arbitrationId
  · subst hsame
    rw [Carriers.moved_self] at hcarrier
    cases hcarrier
    exact ⟨hstate, hle⟩
  · rw [Carriers.moved_of_ne hsame] at hcarrier
    exact hnominal _ _ hcarrier

/-- The encoder writes neither wheel speeds nor the vehicle's. -/
def FrameEncoder.OfDme (encoder : FrameEncoder) : Prop :=
  dscVehicleMotionEncoder.message.arbitrationId ≠ encoder.message.arbitrationId ∧
    dscWheelSpeedsEncoderFrom.message.arbitrationId ≠ encoder.message.arbitrationId

theorem Carriers.Synced.moved (hsynced : carriers.Synced) (hencoder : encoder.OfDme) :
    (carriers.moved encoder state).Synced := by
  unfold Carriers.Synced
  rw [Carriers.moved_of_ne hencoder.1, Carriers.moved_of_ne hencoder.2]
  exact hsynced

/-- Frames of the DME keep the records of every rule explained. -/
theorem TookAll.explained_of_dme {encoders : List FrameEncoder}
    (hbatch : TookAll messageDecode configuration.faults carriers pipeline
      (encoders.map (·, state)) last reached)
    (hstarts : configuration.StartsNominal) (hstate : state.Nominal configuration)
    (hnominal : carriers.Nominal configuration state.timestamp.toNat)
    (hdme : ∀ encoder ∈ encoders, encoder.OfDme) (hsynced : carriers.Synced)
    (h : ∀ rule ∈ defaultRules,
      (pipeline.ruleState rule).Explained configuration.faults rule.code) :
    last.Nominal configuration state.timestamp.toNat ∧ last.Synced ∧
      ∀ rule ∈ defaultRules, (reached.ruleState rule).Explained configuration.faults rule.code := by
  induction encoders generalizing carriers pipeline with
  | nil =>
    cases hbatch
    exact ⟨hnominal, hsynced, h⟩
  | cons encoder rest ih =>
    cases hbatch with
    | cons took later =>
      have hmoved : (carriers.moved encoder state).Nominal configuration state.timestamp.toNat :=
        hnominal.moved hstate le_rfl
      have hkept : (carriers.moved encoder state).Synced :=
        hsynced.moved (hdme encoder List.mem_cons_self)
      exact ih later hmoved (fun other hmem => hdme other (List.mem_cons_of_mem _ hmem)) hkept
        fun rule hrule => took.explained hstarts hmoved hrule (fun _ => hkept) (h rule hrule)

/-- A record that the motion frame brought up goes again with the wheel speed frame, if no biased
sensor explains it. -/
theorem TookAll.explained_of_dsc
    (hbatch : TookAll messageDecode configuration.faults carriers pipeline
      [(dscVehicleMotionEncoder, state), (dscWheelSpeedsEncoderFrom, state)] last reached)
    (hstarts : configuration.StartsNominal) (hstate : state.Nominal configuration)
    (hnominal : carriers.Nominal configuration state.timestamp.toNat)
    (h : ∀ rule ∈ defaultRules,
      (pipeline.ruleState rule).Explained configuration.faults rule.code) :
    last.Synced ∧
      ∀ rule ∈ defaultRules, (reached.ruleState rule).Explained configuration.faults rule.code := by
  obtain ⟨next, first, second, rfl⟩ : ∃ next,
      Pipeline.Took messageDecode configuration.faults
        (carriers.moved dscVehicleMotionEncoder state) state.timestamp.toNat pipeline next ∧
      Pipeline.Took messageDecode configuration.faults
        ((carriers.moved dscVehicleMotionEncoder state).moved dscWheelSpeedsEncoderFrom state)
        state.timestamp.toNat next reached ∧
      last = (carriers.moved dscVehicleMotionEncoder state).moved dscWheelSpeedsEncoderFrom state := by
    cases hbatch with
    | cons first later =>
      cases later with
      | cons second rest =>
        cases rest
        exact ⟨_, first, second, rfl⟩
  set middle := carriers.moved dscVehicleMotionEncoder state with hmiddle
  have hmotion : middle dscVehicleMotionEncoder.message.arbitrationId = some state :=
    Carriers.moved_self ..
  have hwheels : middle.moved dscWheelSpeedsEncoderFrom state
      dscWheelSpeedsEncoderFrom.message.arbitrationId = some state := Carriers.moved_self ..
  have hmotionAfter : middle.moved dscWheelSpeedsEncoderFrom state
      dscVehicleMotionEncoder.message.arbitrationId = some state := by
    rw [Carriers.moved_of_ne (by decide), hmotion]
  have hsynced : (middle.moved dscWheelSpeedsEncoderFrom state).Synced :=
    hmotionAfter.trans hwheels.symm
  have hmoved : middle.Nominal configuration state.timestamp.toNat := hnominal.moved hstate le_rfl
  have hlast : (middle.moved dscWheelSpeedsEncoderFrom state).Nominal configuration
      state.timestamp.toNat := hmoved.moved hstate le_rfl
  refine ⟨hsynced, fun rule hrule => ?_⟩
  by_cases hwheel : rule.code = wheelSpeedDisagreement.code
  · obtain rfl : rule = wheelSpeedDisagreement := by
      simp only [defaultRules, List.mem_cons, List.not_mem_nil, or_false] at hrule
      rcases hrule with rfl | rfl | rfl | rfl | rfl
      · exact absurd hwheel (by decide)
      · exact absurd hwheel (by decide)
      · exact absurd hwheel (by decide)
      · exact absurd hwheel (by decide)
      · rfl
    obtain ⟨shown, -, -, hbetween⟩ := first.evaluated
    obtain ⟨snapshot, -, hobserves, hafter⟩ := second.evaluated
    by_cases hentered : (pipeline.ruleState wheelSpeedDisagreement).dtc = none ∧
        wheelSpeedDisagreement.Violates shown
    · -- the record is provisional: the wheel speed frame decides whether it stays
      have hprovisional : (next.ruleState wheelSpeedDisagreement).Provisional
          state.timestamp.toNat := by
        rw [Pipeline.ruleState, (hbetween _ hrule).2]
        exact DiagnosticRule.evaluate_enters hentered.1 hentered.2 (confirmation_pos hrule)
      obtain ⟨result, hcondition⟩ :=
        wheelSpeedDisagreement_returns hobserves hmotionAfter hwheels
      have hfresh : wheelSpeedDisagreement.InputsFresh snapshot := by
        rw [wheelSpeedDisagreement_inputs.inputsFresh_iff hobserves]
        intro input hmem
        obtain hinput | hinput := List.mem_append.1 hmem
        · obtain ⟨source, -, rfl⟩ := List.mem_map.1 hinput
          exact ⟨state, hwheels, by omega⟩
        · rw [List.mem_singleton.1 hinput]
          exact ⟨state, hmotionAfter, by omega⟩
      intro dtc hdtc
      rw [Pipeline.ruleState, (hafter _ hrule).2] at hdtc
      obtain ⟨hviolates, hfirst⟩ :=
        DiagnosticRule.evaluate_provisional hprovisional hfresh hcondition hdtc
      rw [hfirst]
      exact wheelSpeedDisagreement_explained hobserves hlast hsynced hviolates
    · refine second.explained hstarts hlast hrule (fun _ => hsynced) ?_
      intro dtc hdtc
      rw [Pipeline.ruleState, (hbetween _ hrule).2] at hdtc
      rcases DiagnosticRule.evaluate_firstDetected hdtc with
        ⟨earlier, hmem, heq⟩ | ⟨hnone, hviolates, -⟩
      · rw [heq]
        exact h _ hrule earlier hmem
      · exact (hentered ⟨hnone, hviolates⟩).elim
  · have hbetween := first.explained hstarts hmoved hrule (fun heq => absurd heq hwheel)
      (h rule hrule)
    exact second.explained hstarts hlast hrule (fun _ => hsynced) hbetween

end Frames

section Batches

variable {configuration : SimulationRunConfiguration} {states : List VehicleState}
  {state : VehicleState}

/-- What is sent of the DSC's two messages comes after the frames of the DME. -/
theorem filter_networkEncoders {p : FrameEncoder → Bool}
    (hsame : p dscVehicleMotionEncoder = p dscWheelSpeedsEncoderFrom) :
    ∃ front, (∀ encoder ∈ front, encoder.OfDme) ∧ (networkEncoders.filter p = front ∨
      networkEncoders.filter p = front ++ [dscVehicleMotionEncoder, dscWheelSpeedsEncoderFrom]) := by
  have hsplit : networkEncoders =
      networkEncoders.take 4 ++ [dscVehicleMotionEncoder, dscWheelSpeedsEncoderFrom] := rfl
  have hdme : ∀ encoder ∈ networkEncoders.take 4, encoder.OfDme := by
    simp only [networkEncoders, List.take_succ_cons, List.take_zero, List.forall_mem_cons]
    exact ⟨⟨by decide, by decide⟩, ⟨by decide, by decide⟩, ⟨by decide, by decide⟩,
      ⟨by decide, by decide⟩, nofun⟩
  refine ⟨(networkEncoders.take 4).filter p,
    fun encoder hmem => hdme encoder (List.mem_of_mem_filter hmem), ?_⟩
  rw [hsplit, List.filter_append, ← hsplit]
  cases hwheels : p dscWheelSpeedsEncoderFrom with
  | false =>
    rw [List.filter_cons_of_neg (by rw [hsame, hwheels]; decide),
      List.filter_cons_of_neg (by rw [hwheels]; decide)]
    exact .inl (List.append_nil _)
  | true =>
    rw [List.filter_cons_of_pos (by rw [hsame, hwheels]), List.filter_cons_of_pos hwheels]
    exact .inr rfl

/-- Motion and wheel speeds are sent together, after the frames of the DME. -/
theorem dueAfter_eq (configuration : SimulationRunConfiguration)
    (hincreasing : (states ++ [state]).Pairwise
      (fun left right => left.timestamp < right.timestamp))
    (hrange : ∀ other ∈ states ++ [state], other.timestamp.toNat + 100000 ≤ maximumUInt64.toNat) :
    ∃ front, (∀ encoder ∈ front, encoder.OfDme) ∧
      (dueAfter configuration states state = front ∨ dueAfter configuration states state =
        front ++ [dscVehicleMotionEncoder, dscWheelSpeedsEncoderFrom]) := by
  have hsame : dscVehicleMotionEncoder ∈ dueAfter configuration states state ↔
      dscWheelSpeedsEncoderFrom ∈ dueAfter configuration states state := by
    rw [mem_dueAfter_iff configuration dscVehicleMotion_mem_network hincreasing hrange,
      mem_dueAfter_iff configuration dscWheelSpeeds_mem_network hincreasing hrange]
    exact and_congr ⟨fun _ heq => absurd heq (by decide), fun _ heq => absurd heq (by decide)⟩ Iff.rfl
  rw [dueAfter, dueEncoders, List.mem_filter, List.mem_filter, and_iff_right
    dscVehicleMotion_mem_network, and_iff_right dscWheelSpeeds_mem_network] at hsame
  exact filter_networkEncoders (Bool.eq_iff_iff.2 hsame)

end Batches

/-- Whatever the faults of a run are that starts within the limits of the rules and at a common
ambient pressure, and however its stream is segmented, every trouble code that a live source records
has a configured fault behind it, which was activated by the time the code was first detected. High
oil temperature is never recorded. -/
theorem trouble_codes_have_faults {exp : ℚ → ℚ} (hexp : IsFactor exp)
    (sha256 : Bytes → Sha256Digest) {configuration : SimulationRunConfiguration}
    (hstarts : configuration.StartsNominal) {count : ℕ} {states : List VehicleState}
    {connection : Except PyException FrameStream}
    (hreads : ReadsGateway exp configuration count states connection)
    (hrange : configuration.duration.toNat + 100000 ≤ maximumUInt64.toNat)
    {messageDecode : DbcMessage → Bytes → Option (Dict String CanmatrixValue)}
    (hdecodes : DecodesIntel messageDecode) {recorder : SessionRecorder} {initial : SessionManifest}
    (hrecorded : recorder.Recorded initial []) {rule : DiagnosticRule} (hrule : rule ∈ defaultRules) :
    ∀ dtc ∈ ((runGateway sha256 (.packaged messageDecode) recorder
        connection).pipeline.diagnostics.states rule.code).dtc,
      Explained configuration.faults rule.code dtc.firstDetectedTimestampMicroseconds := by
  obtain ⟨fresh, network, delivered, hcreate, hrun, hconsistent, hconfiguration, hpublished, -⟩ :=
    hreads.delivers
  obtain ⟨carriers, htook, -⟩ := hreads.took hdecodes sha256 hrecorded
  have htimes := hpublished.timestamps (VehicleSimulation.fixedStep_pos hconsistent)
  have hwithin := hpublished.add_le hconsistent (hconfiguration ▸ hrange)
  have hnominal := runTicks_nominal hexp hcreate hstarts hrun
  obtain ⟨-, -, hexplained⟩ := htook.states_induction
    (fun taken carriers pipeline =>
      (∀ arbitrationId carrier, carriers arbitrationId = some carrier → carrier ∈ taken) ∧
        carriers.Synced ∧ ∀ rule ∈ defaultRules,
          (pipeline.ruleState rule).Explained configuration.faults rule.code)
    ⟨fun _ _ hcarrier => (Option.some_ne_none _ hcarrier.symm).elim, rfl,
      fun _ _ _ hmem => (Option.not_mem_none _ hmem).elim⟩
    (fun before state middle between after reached hbegins hholds hbatch => by
      obtain ⟨hcarriers, hsynced, hrecords⟩ := hholds
      have hincreasing := htimes.sublist hbegins.sublist
      have hstate := hnominal state (hbegins.subset (List.mem_append_right _ List.mem_cons_self))
      have hmiddle : middle.Nominal configuration state.timestamp.toNat := by
        intro arbitrationId carrier hcarrier
        have hearlier := hcarriers _ _ hcarrier
        refine ⟨hnominal carrier (hbegins.subset (List.mem_append_left _ hearlier)), ?_⟩
        have hlt := (List.pairwise_append.1 hincreasing).2.2 _ hearlier _ List.mem_cons_self
        exact (UInt64.lt_iff_toNat_lt.1 hlt).le
      refine ⟨?_, ?_⟩
      · intro arbitrationId carrier hcarrier
        rw [hbatch.carriers_eq] at hcarrier
        rcases Carriers.mem_of_after hcarrier with hkept | ⟨pair, hmem, rfl⟩
        · exact List.mem_append_left _ (hcarriers _ _ hkept)
        · obtain ⟨due, -, rfl⟩ := List.mem_map.1 hmem
          exact List.mem_append_right _ List.mem_cons_self
      · obtain ⟨front, hdme, hfront | hfront⟩ := dueAfter_eq configuration hincreasing
          fun other hmem => hwithin other (hbegins.subset hmem)
        · rw [dueAfter] at hfront
          rw [hfront] at hbatch
          exact (hbatch.explained_of_dme hstarts hstate hmiddle hdme hsynced hrecords).2
        · rw [dueAfter] at hfront
          rw [hfront, List.map_append] at hbatch
          obtain ⟨between', pipeline', hbefore, hafter⟩ := hbatch.split
          obtain ⟨hlast, -, hkept⟩ :=
            hbefore.explained_of_dme hstarts hstate hmiddle hdme hsynced hrecords
          exact hafter.explained_of_dsc hstarts hstate hlast hkept)
  exact hexplained rule hrule

/-- The default idle run whose cooling system degrades after a minute. -/
def degradingConfiguration : SimulationRunConfiguration :=
  { makeDefaultIdleRunConfiguration {} with
    faults := [⟨.coolingSystemDegradation, 60000000, none⟩] }

/-- In it high coolant temperature is not detected in the first minute, and low voltage never. -/
theorem degrading_run_has_no_false_alarm :
    ∃ states connection, ReadsGateway reciprocalDecay degradingConfiguration 20000 states connection ∧
      (∀ dtc ∈ ((runGateway (fun _ => someDigest) (.packaged DbcMessage.intelDecode) defaultRecorder
        connection).pipeline.diagnostics.states "TUN-DME-001").dtc,
        60000000 ≤ dtc.firstDetectedTimestampMicroseconds) ∧
      ((runGateway (fun _ => someDigest) (.packaged DbcMessage.intelDecode) defaultRecorder
        connection).pipeline.diagnostics.states "TUN-DME-003").dtc = none := by
  have hvehicle : VehicleSimulation.create degradingConfiguration =
      .ok { VehicleSimulation.idleSimulation with configuration := degradingConfiguration } := by
    decide +kernel
  have hcreate : VehicleNetworkSimulation.create degradingConfiguration {} {} = .ok _ :=
    VehicleNetworkSimulation.create_eq hvehicle rfl
  obtain ⟨states, connection, hreads⟩ := exists_reads_bytewise reciprocalDecay hcreate 20000
  have hstarts : degradingConfiguration.StartsNominal := by constructor <;> decide +kernel
  have hcoolant : coolantTemperatureHigh ∈ defaultRules := .head _
  have hcharging : chargingVoltageLow ∈ defaultRules := .tail _ (.tail _ (.head _))
  refine ⟨states, connection, hreads, fun dtc hdtc => ?_, ?_⟩
  · obtain ⟨fault, hmem, -, hle⟩ := trouble_codes_have_faults isFactor_reciprocal
      (fun _ => someDigest) hstarts hreads (by decide) decodesIntel_intelDecode
      defaultRecorder_recorded hcoolant dtc hdtc
    rw [List.mem_singleton.1 hmem] at hle
    exact hle
  · refine Option.eq_none_iff_forall_not_mem.2 fun dtc hdtc => ?_
    obtain ⟨fault, hmem, hcode, -⟩ := trouble_codes_have_faults isFactor_reciprocal
      (fun _ => someDigest) hstarts hreads (by decide) decodesIntel_intelDecode
      defaultRecorder_recorded hcharging dtc hdtc
    rw [List.mem_singleton.1 hmem] at hcode
    exact absurd hcode (by decide)

end TunerOs
