-- SUMMARY: The validated rule catalog and the five default TunerOS rules.
import TunerOs.Diagnostics.Rules
import TunerOs.Lib.Sequences
import TunerOs.Telemetry.Catalog

/-!
# Diagnostic catalog

A catalog keeps its rules in evaluation order, with pairwise different codes and
rule IDs; both facts are fields, as the constructor raises on duplicates. The
constructor also requires every input signal to be in the signal catalog.
Durations are natural numbers, so the checks against negative ones cannot fail.
-/

namespace TunerOs

structure DiagnosticRule where
  definition : DiagnosticDefinition
  condition : DiagnosticCondition

def DiagnosticRule.code (rule : DiagnosticRule) : String := rule.definition.code

structure DiagnosticCatalog where
  rules : List DiagnosticRule
  codes_nodup : (rules.map DiagnosticRule.code).Nodup
  ruleIds_nodup : (rules.map (·.definition.ruleId)).Nodup

namespace DiagnosticCatalog

def empty : DiagnosticCatalog := ⟨[], List.nodup_nil, List.nodup_nil⟩

def duplicateCode (code : String) : PyException :=
  ⟨.valueError, "duplicate diagnostic code " ++ code⟩

def duplicateRuleId (ruleId : String) : PyException :=
  ⟨.valueError, "duplicate diagnostic rule ID " ++ ruleId⟩

/-- One round of the constructor's loop over `rules`. -/
def addRule (signalCatalog : SignalCatalog) (catalog : DiagnosticCatalog) (rule : DiagnosticRule) :
    Except PyException DiagnosticCatalog :=
  if hcode : rule.code ∈ catalog.rules.map DiagnosticRule.code then
    .error (duplicateCode rule.code)
  else if hid : rule.definition.ruleId ∈ catalog.rules.map (·.definition.ruleId) then
    .error (duplicateRuleId rule.definition.ruleId)
  else
    match rule.definition.requiredSignals.mapM signalCatalog.require with
    | .error error => .error error
    | .ok _ =>
      .ok ⟨catalog.rules ++ [rule],
        List.nodup_map_concat catalog.codes_nodup hcode,
        List.nodup_map_concat catalog.ruleIds_nodup hid⟩

/-- `DiagnosticCatalog(rules, signal_catalog)`. -/
def create (rules : List DiagnosticRule) (signalCatalog : SignalCatalog) :
    Except PyException DiagnosticCatalog :=
  rules.foldlM (addRule signalCatalog) empty

def get? (catalog : DiagnosticCatalog) (code : String) : Option DiagnosticRule :=
  catalog.rules.find? (·.code = code)

def unknownCode (code : String) : PyException :=
  ⟨.unknownDiagnosticCodeError, "unknown diagnostic code '" ++ code ++ "'"⟩

def require (catalog : DiagnosticCatalog) (code : String) : Except PyException DiagnosticRule :=
  match catalog.get? code with
  | none => .error (unknownCode code)
  | some rule => .ok rule

theorem get?_isSome_iff {catalog : DiagnosticCatalog} {code : String} :
    (catalog.get? code).isSome ↔ code ∈ catalog.rules.map DiagnosticRule.code := by
  simp [get?, List.find?_isSome]

theorem require_of_mem (catalog : DiagnosticCatalog) {rule : DiagnosticRule}
    (hrule : rule ∈ catalog.rules) : ∃ found, catalog.require rule.code = .ok found := by
  have hsome : (catalog.get? rule.code).isSome :=
    get?_isSome_iff.2 (List.mem_map_of_mem hrule)
  obtain ⟨found, hfound⟩ := Option.isSome_iff_exists.1 hsome
  exact ⟨found, by simp [require, hfound]⟩

end DiagnosticCatalog

/-! ## The default rules -/

namespace SignalKey

def coolant : SignalKey := ⟨"DmeThermalElectrical", "CoolantTemperature"⟩
def oil : SignalKey := ⟨"DmeThermalElectrical", "OilTemperature"⟩
def battery : SignalKey := ⟨"DmeThermalElectrical", "BatteryVoltage"⟩
def engineRunning : SignalKey := ⟨"DmeFastEngine", "EngineRunning"⟩
def manifoldPressure : SignalKey := ⟨"DmeAirLoad", "ManifoldPressureAbsolute"⟩
def vehicleSpeed : SignalKey := ⟨"DscVehicleMotion", "VehicleSpeed"⟩
def frontLeftWheelSpeed : SignalKey := ⟨"DscWheelSpeeds", "FrontLeftWheelSpeed"⟩
def frontRightWheelSpeed : SignalKey := ⟨"DscWheelSpeeds", "FrontRightWheelSpeed"⟩
def rearLeftWheelSpeed : SignalKey := ⟨"DscWheelSpeeds", "RearLeftWheelSpeed"⟩
def rearRightWheelSpeed : SignalKey := ⟨"DscWheelSpeeds", "RearRightWheelSpeed"⟩

end SignalKey

/-- `_definition`: durations are given in seconds. -/
def diagnosticDefinition (code ruleId name description : String) (severity : DiagnosticSeverity)
    (sourceSystem : String) (requiredSignals : List SignalKey)
    (confirmationSeconds recoverySeconds : ℕ)
    (activationDescription recoveryDescription : String) : DiagnosticDefinition where
  code := code
  ruleId := ruleId
  name := name
  description := description
  severity := severity
  sourceSystem := sourceSystem
  requiredSignals := requiredSignals
  confirmationDurationMicroseconds := confirmationSeconds * 1000000
  recoveryDurationMicroseconds := recoverySeconds * 1000000
  activationDescription := activationDescription
  recoveryDescription := recoveryDescription

def wheelSpeeds : List SignalKey :=
  [.frontLeftWheelSpeed, .frontRightWheelSpeed, .rearLeftWheelSpeed, .rearRightWheelSpeed]

def coolantTemperatureHigh : DiagnosticRule where
  definition := diagnosticDefinition "TUN-DME-001" "dme.coolant_temperature_high"
    "Engine coolant temperature high"
    "Decoded coolant temperature remained above the TunerOS high threshold."
    .critical "DME" [.coolant] 5 3
    "CoolantTemperature > 115 degC" "CoolantTemperature <= 110 degC"
  condition := HighThresholdCondition.evaluate ⟨.coolant, 115, 110⟩

def oilTemperatureHigh : DiagnosticRule where
  definition := diagnosticDefinition "TUN-DME-002" "dme.oil_temperature_high"
    "Engine oil temperature high"
    "Decoded oil temperature remained above the TunerOS high threshold."
    .critical "DME" [.oil] 5 3
    "OilTemperature > 135 degC" "OilTemperature <= 130 degC"
  condition := HighThresholdCondition.evaluate ⟨.oil, 135, 130⟩

def chargingVoltageLow : DiagnosticRule where
  definition := diagnosticDefinition "TUN-DME-003" "dme.charging_voltage_low"
    "Charging voltage low while running"
    "Battery voltage remained low while decoded engine-running state was true."
    .warning "DME" [.battery, .engineRunning] 3 2
    "EngineRunning and BatteryVoltage < 12.5 V" "Engine stopped or BatteryVoltage >= 13.0 V"
  condition := LowWhileTrueCondition.evaluate ⟨.battery, .engineRunning, 12.5, 13⟩

def manifoldPressureImplausible : DiagnosticRule where
  definition := diagnosticDefinition "TUN-DME-004" "dme.manifold_pressure_implausible"
    "Manifold pressure implausible"
    "Decoded absolute manifold pressure remained outside broad TunerOS bounds."
    .warning "DME" [.manifoldPressure, .engineRunning] 2 2
    "EngineRunning and MAP outside 10..250 kPa absolute"
    "Engine stopped or MAP within 15..240 kPa absolute"
  condition :=
    OutsideRangeWhileTrueCondition.evaluate ⟨.manifoldPressure, .engineRunning, 10, 250, 15, 240⟩

def wheelSpeedDisagreement : DiagnosticRule where
  definition := diagnosticDefinition "TUN-DSC-001" "dsc.wheel_speed_disagreement"
    "Wheel-speed plausibility disagreement"
    "A decoded wheel speed remained materially different from decoded vehicle speed."
    .warning "DSC" (wheelSpeeds ++ [.vehicleSpeed]) 1 1
    "Any wheel differs from VehicleSpeed by > 3.0 m/s"
    "Every wheel is within 1.5 m/s of VehicleSpeed"
  condition := SignalDisagreementCondition.evaluate ⟨wheelSpeeds, .vehicleSpeed, 3, 1.5⟩

def defaultRules : List DiagnosticRule :=
  [coolantTemperatureHigh, oilTemperatureHigh, chargingVoltageLow, manifoldPressureImplausible,
    wheelSpeedDisagreement]

/-- `create_default_diagnostic_catalog`. -/
def createDefaultDiagnosticCatalog (signalCatalog : SignalCatalog) :
    Except PyException DiagnosticCatalog :=
  DiagnosticCatalog.create defaultRules signalCatalog

end TunerOs
