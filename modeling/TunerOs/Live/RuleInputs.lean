-- SUMMARY: What the default rules read of a live pipeline: whether their inputs are fresh, and the values of the carriers' frames.
import TunerOs.Diagnostics.History
import TunerOs.Lib.Fallible
import TunerOs.Lib.Sequences
import TunerOs.Live.Telemetry

/-!
# The inputs of the default rules

A rule reads signals of a few messages. On a snapshot that shows the carriers its inputs
are fresh when those messages' carriers are at most two periods old, and its condition
is decided by the values that the carriers' frames decode to.
-/

namespace TunerOs

open ByteCodec Containers Fallible Quantize

/-! ## Values of observed frames -/

/-- The field of a source as the sensors observe it. -/
def SignalSource.observed (source : SignalSource) (faults : List FaultConfiguration)
    (state : VehicleState) : ℚ :=
  source.field (observeSensors state faults).dmeState
    (observeSensors state faults).wheelSpeedsMetersPerSecond

namespace FrameEncoder

/-- The engineering value of a signal in the frame of an observed state. -/
def value (encoder : FrameEncoder) (faults : List FaultConfiguration) (signal : DbcSignal)
    (state : VehicleState) : ℚ :=
  (signal.decode (encoder.observed faults state).data).physValue

section Value

variable {encoder : FrameEncoder} {source : SignalSource} (hencoder : encoder ∈ networkEncoders)
  (hsource : source ∈ encoder.sources) (faults : List FaultConfiguration) (state : VehicleState)

include hencoder hsource

theorem value_eq :
    encoder.value faults source.signal state =
      level source.levels source.scale source.signal.offset (source.observed faults state) *
        source.signal.factor + source.signal.offset :=
  (frameEncoder_carries (mem_frameEncoders_of_network hencoder) _ _).decodedValue hsource

/-- A bound on a field that is one of the signal's values bounds the value. -/
theorem value_le {k : ℕ} (hk : k ≤ source.levels)
    (hfield : source.observed faults state ≤ k * source.scale + source.signal.offset) :
    encoder.value faults source.signal state ≤ k * source.signal.factor + source.signal.offset := by
  obtain ⟨hscale, hfactor, -⟩ :=
    (steps_of_source (mem_frameEncoders_of_network hencoder)).2 source hsource
  have hlevel := level_le_of_le hscale hk hfield
  rw [value_eq hencoder hsource]
  gcongr

theorem le_value {k : ℕ} (hk : k ≤ source.levels)
    (hfield : k * source.scale + source.signal.offset ≤ source.observed faults state) :
    k * source.signal.factor + source.signal.offset ≤ encoder.value faults source.signal state := by
  obtain ⟨hscale, hfactor, -⟩ :=
    (steps_of_source (mem_frameEncoders_of_network hencoder)).2 source hsource
  have hlevel := le_level_of_le hscale hk hfield
  rw [value_eq hencoder hsource]
  gcongr

end Value

end FrameEncoder

/-! ## The sources that rules read -/

def coolantSource : SignalSource :=
  ⟨⟨"CoolantTemperature", 0, 16, 0.1, -100, "degC"⟩, 0.1,
    fun state _ => state.coolantTemperatureCelsius⟩

def oilSource : SignalSource :=
  ⟨⟨"OilTemperature", 16, 16, 0.1, -100, "degC"⟩, 0.1, fun state _ => state.oilTemperatureCelsius⟩

def batterySource : SignalSource :=
  ⟨⟨"BatteryVoltage", 48, 8, 0.1, 0, "V"⟩, 0.1, fun state _ => state.batteryVoltageVolts⟩

def engineRunningSource : SignalSource :=
  ⟨⟨"EngineRunning", 32, 1, 1, 0, "boolean"⟩, 1, fun state _ => if state.engineRunning then 1 else 0⟩

def manifoldPressureSource : SignalSource :=
  ⟨⟨"ManifoldPressureAbsolute", 0, 16, 0.1, 0, "kPa_abs"⟩, 0.1,
    fun state _ => state.manifoldPressureKpaAbsolute⟩

def vehicleSpeedSource : SignalSource :=
  ⟨⟨"VehicleSpeed", 0, 16, 0.01, 0, "m/s"⟩, 0.01, fun state _ => state.vehicleSpeedMetersPerSecond⟩

/-- The sources of the four wheel speeds. -/
def wheelSpeedSources : List SignalSource := dscWheelSpeedsEncoderFrom.sources

theorem coolantSource_mem : coolantSource ∈ dmeThermalElectricalEncoder.sources := .head _

theorem oilSource_mem : oilSource ∈ dmeThermalElectricalEncoder.sources := .tail _ (.head _)

theorem batterySource_mem : batterySource ∈ dmeThermalElectricalEncoder.sources :=
  .tail _ (.tail _ (.tail _ (.head _)))

theorem engineRunningSource_mem : engineRunningSource ∈ dmeFastEngineEncoder.sources :=
  .tail _ (.tail _ (.tail _ (.head _)))

theorem manifoldPressureSource_mem : manifoldPressureSource ∈ dmeAirLoadEncoder.sources := .head _

theorem vehicleSpeedSource_mem : vehicleSpeedSource ∈ dscVehicleMotionEncoder.sources := .head _

/-- The sensors falsify neither the engine's running nor any value but two. -/
theorem observe_dmeState (active : ActiveFaults) (state : VehicleState) :
    (active.observe state).dmeState.engineRunning = state.engineRunning ∧
      (active.observe state).dmeState.coolantTemperatureCelsius = state.coolantTemperatureCelsius ∧
      (active.observe state).dmeState.oilTemperatureCelsius = state.oilTemperatureCelsius ∧
      (active.observe state).dmeState.batteryVoltageVolts = state.batteryVoltageVolts ∧
      (active.observe state).dmeState.vehicleSpeedMetersPerSecond =
        state.vehicleSpeedMetersPerSecond := by
  unfold ActiveFaults.observe
  split <;> exact ⟨rfl, rfl, rfl, rfl, rfl⟩

/-! ## Reading a snapshot that shows the carriers -/

/-- The carrier of the encoder's message is at most two of its periods old. -/
def Carriers.FreshAt (carriers : Carriers) (encoder : FrameEncoder) (timestamp : ℕ) : Prop :=
  ∃ state, carriers encoder.message.arbitrationId = some state ∧
    timestamp - state.timestamp.toNat ≤ 2 * encoder.period

namespace TelemetrySnapshot.Observes

variable {snapshot : TelemetrySnapshot} {faults : List FaultConfiguration} {carriers : Carriers}
  {timestamp : ℕ} {encoder : FrameEncoder} {state : VehicleState} {signal : DbcSignal}

theorem exists_sample (h : snapshot.Observes faults carriers timestamp)
    (hencoder : encoder ∈ networkEncoders)
    (hcarrier : carriers encoder.message.arbitrationId = some state)
    (hsignal : signal ∈ encoder.message.signals) :
    ∃ sample, snapshot.samples.get? (encoder.key signal) = some sample ∧
      sample.value = encoder.shown faults signal state := by
  have hreading := h.shows encoder hencoder signal hsignal
  rw [Carriers.reading, hcarrier] at hreading
  obtain ⟨sample, hsample, hpair⟩ := Option.map_eq_some_iff.1 hreading
  exact ⟨sample, hsample, congrArg Prod.fst hpair⟩

/-- Signals are numbers, but for one. -/
theorem number_eq (h : snapshot.Observes faults carriers timestamp)
    (hencoder : encoder ∈ networkEncoders)
    (hcarrier : carriers encoder.message.arbitrationId = some state)
    (hsignal : signal ∈ encoder.message.signals) (hname : signal.name ≠ "EngineRunning") :
    number snapshot (encoder.key signal) = .ok (encoder.value faults signal state) := by
  obtain ⟨sample, hsample, hvalue⟩ := h.exists_sample hencoder hcarrier hsignal
  rw [FrameEncoder.shown, Decoder.signalValue, if_neg hname] at hvalue
  rw [number, hsample]
  simp only [hvalue]
  rfl

theorem number_of_source (h : snapshot.Observes faults carriers timestamp)
    (hencoder : encoder ∈ networkEncoders)
    (hcarrier : carriers encoder.message.arbitrationId = some state) {source : SignalSource}
    (hsource : source ∈ encoder.sources) (hname : source.signal.name ≠ "EngineRunning") :
    number snapshot (encoder.key source.signal) =
      .ok (encoder.value faults source.signal state) := by
  have hsignals := (steps_of_source (mem_frameEncoders_of_network hencoder)).1
  exact h.number_eq hencoder hcarrier (hsignals ▸ List.mem_map_of_mem hsource) hname

/-- The engine is shown running when it was. -/
theorem boolean_engineRunning (h : snapshot.Observes faults carriers timestamp)
    (hcarrier : carriers dmeFastEngineEncoder.message.arbitrationId = some state) :
    boolean snapshot .engineRunning = .ok state.engineRunning := by
  have hsignal : engineRunningSource.signal ∈ dmeFastEngineEncoder.message.signals :=
    .tail _ (.tail _ (.tail _ (.head _)))
  obtain ⟨sample, hsample, hvalue⟩ := h.exists_sample (.head _) hcarrier hsignal
  have hraw := (dmeFastEngine_carries (observeSensors state faults).dmeState
    (observeSensors state faults).wheelSpeedsMetersPerSecond).rawValues engineRunningSource
    engineRunningSource_mem
  have hlevel : engineRunningSource.rawValue (observeSensors state faults).dmeState
      (observeSensors state faults).wheelSpeedsMetersPerSecond =
      if state.engineRunning then 1 else 0 := by
    have hkept : (observeSensors state faults).dmeState.engineRunning = state.engineRunning :=
      (observe_dmeState _ state).1
    change level 1 (1 : ℚ) 0 (if (observeSensors state faults).dmeState.engineRunning then 1 else 0) = _
    rw [hkept]
    cases state.engineRunning with
    | false => exact level_of_le one_pos le_rfl
    | true => exact level_of_ge one_pos (by norm_num)
  rw [hlevel] at hraw
  have hshown : sample.value = .bool state.engineRunning := by
    rw [hvalue, FrameEncoder.shown, Decoder.signalValue]
    refine (if_pos rfl).trans (congrArg SignalValue.bool ?_)
    change decide (bitField _ engineRunningSource.signal.startBit engineRunningSource.signal.size ≠ 0) = _
    rw [FrameEncoder.observed, hraw]
    cases state.engineRunning <;> rfl
  have hkey : SignalKey.engineRunning = dmeFastEngineEncoder.key engineRunningSource.signal := rfl
  rw [boolean, hkey, hsample]
  simp only [hshown]

end TelemetrySnapshot.Observes

/-! ## Fresh inputs -/

theorem dmeAirLoad_mem_network : dmeAirLoadEncoder ∈ networkEncoders := .tail _ (.head _)

theorem dmeThermalElectrical_mem_network : dmeThermalElectricalEncoder ∈ networkEncoders :=
  .tail _ (.tail _ (.head _))

theorem dscVehicleMotion_mem_network : dscVehicleMotionEncoder ∈ networkEncoders :=
  .tail _ (.tail _ (.tail _ (.tail _ (.head _))))

theorem dscWheelSpeeds_mem_network : dscWheelSpeedsEncoderFrom ∈ networkEncoders :=
  .tail _ (.tail _ (.tail _ (.tail _ (.tail _ (.head _)))))

/-- The signals that the rule reads, each with the encoder of its message. -/
structure DiagnosticRule.HasInputs (rule : DiagnosticRule) (inputs : List (FrameEncoder × DbcSignal)) :
    Prop where
  network : ∀ input ∈ inputs, input.1 ∈ networkEncoders
  signals : ∀ input ∈ inputs, input.2 ∈ input.1.message.signals
  required : rule.definition.requiredSignals = inputs.map (fun input => input.1.key input.2)

/-- The inputs of a rule are fresh when the carriers of its messages are. -/
theorem DiagnosticRule.HasInputs.inputsFresh_iff {rule : DiagnosticRule}
    {inputs : List (FrameEncoder × DbcSignal)} (hinputs : rule.HasInputs inputs)
    {snapshot : TelemetrySnapshot} {faults : List FaultConfiguration} {carriers : Carriers}
    {timestamp : ℕ} (h : snapshot.Observes faults carriers timestamp) :
    rule.InputsFresh snapshot ↔ ∀ input ∈ inputs, carriers.FreshAt input.1 timestamp := by
  unfold InputsFresh
  rw [hinputs.required, List.forall_mem_map]
  exact forall₂_congr fun input hmem =>
    h.fresh input.1 (hinputs.network input hmem) input.2 (hinputs.signals input hmem)

theorem coolantTemperatureHigh_inputs :
    coolantTemperatureHigh.HasInputs [(dmeThermalElectricalEncoder, coolantSource.signal)] := by
  refine ⟨?_, ?_, rfl⟩ <;> simp only [List.forall_mem_cons]
  · exact ⟨dmeThermalElectrical_mem_network, nofun⟩
  · exact ⟨.head _, nofun⟩

theorem oilTemperatureHigh_inputs :
    oilTemperatureHigh.HasInputs [(dmeThermalElectricalEncoder, oilSource.signal)] := by
  refine ⟨?_, ?_, rfl⟩ <;> simp only [List.forall_mem_cons]
  · exact ⟨dmeThermalElectrical_mem_network, nofun⟩
  · exact ⟨.tail _ (.head _), nofun⟩

theorem chargingVoltageLow_inputs :
    chargingVoltageLow.HasInputs [(dmeThermalElectricalEncoder, batterySource.signal),
      (dmeFastEngineEncoder, engineRunningSource.signal)] := by
  refine ⟨?_, ?_, rfl⟩ <;> simp only [List.forall_mem_cons]
  · exact ⟨dmeThermalElectrical_mem_network, .head _, nofun⟩
  · exact ⟨.tail _ (.tail _ (.tail _ (.head _))), .tail _ (.tail _ (.tail _ (.head _))), nofun⟩

theorem manifoldPressureImplausible_inputs :
    manifoldPressureImplausible.HasInputs [(dmeAirLoadEncoder, manifoldPressureSource.signal),
      (dmeFastEngineEncoder, engineRunningSource.signal)] := by
  refine ⟨?_, ?_, rfl⟩ <;> simp only [List.forall_mem_cons]
  · exact ⟨dmeAirLoad_mem_network, .head _, nofun⟩
  · exact ⟨.head _, .tail _ (.tail _ (.tail _ (.head _))), nofun⟩

theorem wheelSpeedDisagreement_inputs :
    wheelSpeedDisagreement.HasInputs
      (wheelSpeedSources.map (fun source => (dscWheelSpeedsEncoderFrom, source.signal)) ++
        [(dscVehicleMotionEncoder, vehicleSpeedSource.signal)]) := by
  refine ⟨?_, ?_, rfl⟩
  · intro input hmem
    obtain hwheels | hmotion := List.mem_append.1 hmem
    · obtain ⟨source, -, rfl⟩ := List.mem_map.1 hwheels
      exact dscWheelSpeeds_mem_network
    · rw [List.mem_singleton.1 hmotion]
      exact dscVehicleMotion_mem_network
  · intro input hmem
    obtain hwheels | hmotion := List.mem_append.1 hmem
    · obtain ⟨source, hsource, rfl⟩ := List.mem_map.1 hwheels
      exact List.mem_map_of_mem (f := SignalSource.signal) hsource
    · rw [List.mem_singleton.1 hmotion]
      exact .head _

/-! ## Conditions that return -/

section Conditions

variable {snapshot : TelemetrySnapshot} {value : ℚ} {running : Bool} (active : Bool)

theorem HighThresholdCondition.evaluate_eq (condition : HighThresholdCondition)
    (hvalue : number snapshot condition.signal = .ok value) :
    condition.evaluate snapshot active = .ok (conditionResult
      ((if active then condition.recoveryBelow else condition.activationAbove) < value)) := by
  simp only [evaluate, hvalue, bind, Except.bind]
  rfl

theorem LowWhileTrueCondition.evaluate_eq (condition : LowWhileTrueCondition)
    (hcontext : boolean snapshot condition.context = .ok running)
    (hvalue : number snapshot condition.signal = .ok value) :
    condition.evaluate snapshot active = .ok (conditionResult (running &&
      value < (if active then condition.recoveryAbove else condition.activationBelow))) := by
  cases running <;> simp only [evaluate, hcontext, hvalue, bind, Except.bind] <;> rfl

theorem OutsideRangeWhileTrueCondition.evaluate_eq (condition : OutsideRangeWhileTrueCondition)
    (hcontext : boolean snapshot condition.context = .ok running)
    (hvalue : number snapshot condition.signal = .ok value) :
    condition.evaluate snapshot active = .ok (conditionResult (running &&
      (value < (if active then condition.recoveryMinimum else condition.activationMinimum) ||
        (if active then condition.recoveryMaximum else condition.activationMaximum) < value))) := by
  cases running <;> simp only [evaluate, hcontext, hvalue, bind, Except.bind] <;> rfl

/-- The condition compares the greatest difference with its threshold. -/
theorem SignalDisagreementCondition.evaluate_eq (condition : SignalDisagreementCondition)
    {values : SignalKey → ℚ} {reference : ℚ} (hne : condition.comparedSignals ≠ [])
    (hreference : number snapshot condition.referenceSignal = .ok reference)
    (hvalues : ∀ key ∈ condition.comparedSignals, number snapshot key = .ok (values key)) :
    condition.evaluate snapshot active = .ok (conditionResult (∃ key ∈ condition.comparedSignals,
      (if active then condition.recoveryDelta else condition.activationDelta) <
        |values key - reference|)) := by
  have hdeltas : condition.comparedSignals.mapM (fun key => do
      return |(← number snapshot key) - reference| : SignalKey → Except PyException ℚ) =
      .ok (condition.comparedSignals.map (fun key => |values key - reference|)) :=
    mapM_eq_map fun key hmem => by rw [hvalues key hmem]; rfl
  simp only [evaluate, hreference, bind, Except.bind] at hdeltas ⊢
  rw [hdeltas]
  obtain ⟨first, rest, hsignals⟩ := List.exists_cons_of_ne_nil hne
  simp only [hsignals, List.map_cons, maximumDelta]
  refine congrArg (fun violated => Except.ok (conditionResult violated)) (decide_eq_decide.2 ?_)
  rw [List.lt_foldl_max_iff]
  change (∃ delta ∈ (first :: rest).map (fun key => |values key - reference|), _) ↔ _
  simp only [List.mem_map, exists_exists_and_eq_and]

end Conditions

end TunerOs
