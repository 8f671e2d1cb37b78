-- SUMMARY: The packaged DBC and the Intel-order decoding of its payloads.
import TunerOs.Can.Decoder
import TunerOs.Lib.ByteCodec
import Mathlib.Tactic.NormNum

/-!
# The packaged DBC

`tuneros_simulation.dbc` as data, and what `canmatrix` computes from it: unsigned
Intel-order bit fields, scaled by factor and offset.
-/

namespace TunerOs

open Containers ByteCodec

namespace DbcSignal

/-- The raw field and the engineering value of a signal in a payload. -/
def decode (signal : DbcSignal) (payload : Bytes) : CanmatrixValue :=
  let raw := bitField payload signal.startBit signal.size
  ⟨raw, raw * signal.factor + signal.offset⟩

/-- The bit belongs to the signal. -/
def Covers (signal : DbcSignal) (bit : ℕ) : Prop :=
  signal.startBit ≤ bit ∧ bit < signal.startBit + signal.size

end DbcSignal

namespace DbcMessage

/-- The values of all signals of a message. -/
def signalValues (message : DbcMessage) (payload : Bytes) : Dict String CanmatrixValue where
  entries := message.signals.map (fun signal => (signal.name, signal.decode payload))
  keys_nodup := by
    simpa [List.map_map, Function.comp_def] using message.names_nodup

/-- The payload decoding of `canmatrix`; a payload of another size is an error. -/
def intelDecode (message : DbcMessage) (payload : Bytes) : Option (Dict String CanmatrixValue) :=
  if payload.length = message.size then some (message.signalValues payload) else none

theorem get?_signalValues (message : DbcMessage) {signal : DbcSignal}
    (h : signal ∈ message.signals) (payload : Bytes) :
    (message.signalValues payload).get? signal.name = some (signal.decode payload) := by
  rw [← Dict.mem_entries_iff]
  exact List.mem_map_of_mem (f := fun signal => (signal.name, signal.decode payload)) h

end DbcMessage

/-- The scale of a normalized signal as the DBC spells it; the nearest `double` to 1/255 prints so. -/
def normalizedFactor : ℚ := 0.00392156862745098

def dmeFastEngine : DbcMessage where
  arbitrationId := 1280
  name := "DmeFastEngine"
  size := 5
  transmitter := "TunerOsSimulatedDme"
  cycleTimeMilliseconds := 10
  signals :=
    [⟨"EngineSpeedRpm", 0, 16, 0.25, 0, "rpm"⟩,
      ⟨"ThrottlePosition", 16, 8, normalizedFactor, 0, "normalized"⟩,
      ⟨"EngineLoad", 24, 8, normalizedFactor, 0, "normalized"⟩,
      ⟨"EngineRunning", 32, 1, 1, 0, "boolean"⟩]
  names_nodup := by decide

def dmeAirLoad : DbcMessage where
  arbitrationId := 1281
  name := "DmeAirLoad"
  size := 4
  transmitter := "TunerOsSimulatedDme"
  cycleTimeMilliseconds := 20
  signals :=
    [⟨"ManifoldPressureAbsolute", 0, 16, 0.1, 0, "kPa_abs"⟩,
      ⟨"AcceleratorPedalPosition", 16, 8, normalizedFactor, 0, "normalized"⟩,
      ⟨"RequestedScenarioLoad", 24, 8, normalizedFactor, 0, "normalized"⟩]
  names_nodup := by decide

def dmeThermalElectrical : DbcMessage where
  arbitrationId := 1282
  name := "DmeThermalElectrical"
  size := 7
  transmitter := "TunerOsSimulatedDme"
  cycleTimeMilliseconds := 100
  signals :=
    [⟨"CoolantTemperature", 0, 16, 0.1, -100, "degC"⟩,
      ⟨"OilTemperature", 16, 16, 0.1, -100, "degC"⟩,
      ⟨"IntakeAirTemperature", 32, 16, 0.1, -100, "degC"⟩,
      ⟨"BatteryVoltage", 48, 8, 0.1, 0, "V"⟩]
  names_nodup := by decide

def dmeCombustionObservation : DbcMessage where
  arbitrationId := 1283
  name := "DmeCombustionObservation"
  size := 3
  transmitter := "TunerOsSimulatedDme"
  cycleTimeMilliseconds := 20
  signals :=
    [⟨"Lambda", 0, 8, 0.01, 0, "lambda"⟩,
      ⟨"IgnitionTiming", 8, 16, 0.1, -100, "degrees"⟩]
  names_nodup := by decide

def dscVehicleMotion : DbcMessage where
  arbitrationId := 1312
  name := "DscVehicleMotion"
  size := 3
  transmitter := "TunerOsSimulatedDsc"
  cycleTimeMilliseconds := 20
  signals :=
    [⟨"VehicleSpeed", 0, 16, 0.01, 0, "m/s"⟩,
      ⟨"CurrentGear", 16, 8, 1, 0, "gear"⟩]
  names_nodup := by decide

def dscWheelSpeeds : DbcMessage where
  arbitrationId := 1313
  name := "DscWheelSpeeds"
  size := 8
  transmitter := "TunerOsSimulatedDsc"
  cycleTimeMilliseconds := 20
  signals :=
    [⟨"FrontLeftWheelSpeed", 0, 16, 0.01, 0, "m/s"⟩,
      ⟨"FrontRightWheelSpeed", 16, 16, 0.01, 0, "m/s"⟩,
      ⟨"RearLeftWheelSpeed", 32, 16, 0.01, 0, "m/s"⟩,
      ⟨"RearRightWheelSpeed", 48, 16, 0.01, 0, "m/s"⟩]
  names_nodup := by decide

/-- The messages of `tuneros_simulation.dbc`, in file order. -/
def packagedMessages : List DbcMessage :=
  [dmeFastEngine, dmeAirLoad, dmeThermalElectrical, dmeCombustionObservation, dscVehicleMotion,
    dscWheelSpeeds]

/-- `TunerOsDbcDecoder()`, with the payload decoding of `canmatrix` as a parameter. -/
def packagedDecoder (messageDecode : DbcMessage → Bytes → Option (Dict String CanmatrixValue)) :
    Decoder where
  messages := packagedMessages
  ids_nodup := by decide
  messageDecode := messageDecode

theorem packagedDecoder_decodesSignals : (packagedDecoder DbcMessage.intelDecode).DecodesSignals := by
  intro message _ payload values hvalues name
  have hdecode : message.intelDecode payload = some values := hvalues
  unfold DbcMessage.intelDecode at hdecode
  split at hdecode
  · cases hdecode
    simp [DbcMessage.signalValues, Dict.keys, List.map_map, Function.comp_def]
  · cases hdecode

end TunerOs
