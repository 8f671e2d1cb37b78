-- SUMMARY: The four frames of the simulated DME.
import TunerOs.Ecu.SignalEncoding
import TunerOs.Simulator.Contracts

/-!
# DME frames

Each encoder starts from a zeroed payload and writes its signals by byte offset.
-/

namespace TunerOs

def kDmeFastEngineFrameId : UInt16 := 0x500
def kDmeAirLoadFrameId : UInt16 := 0x501
def kDmeThermalElectricalFrameId : UInt16 := 0x502
def kDmeCombustionObservationFrameId : UInt16 := 0x503

def kDmeFastEnginePayloadLength : UInt8 := 5
def kDmeAirLoadPayloadLength : UInt8 := 4
def kDmeThermalElectricalPayloadLength : UInt8 := 7
def kDmeCombustionObservationPayloadLength : UInt8 := 3

/-- A payload of zeros, as value initialisation leaves it. -/
def zeroPayload : Payload := Vector.replicate kMaximumClassicCanPayloadLength 0

/-- `make_dme_fast_engine_frame`. -/
def makeDmeFastEngineFrame (state : VehicleState) : CanFrame where
  arbitrationId := kDmeFastEngineFrameId
  payloadLength := kDmeFastEnginePayloadLength
  timestampMicroseconds := state.timestamp
  payload :=
    let payload := packU16LittleEndian zeroPayload 0 (encodeScaledU16 state.engineSpeedRpm 0.25 0)
    let payload := payload.setIfInBounds 2 (encodeNormalizedU8 state.throttlePosition)
    let payload := payload.setIfInBounds 3 (encodeNormalizedU8 state.engineLoad)
    payload.setIfInBounds 4 (if state.engineRunning then 0x01 else 0x00)

/-- `make_dme_air_load_frame`. -/
def makeDmeAirLoadFrame (state : VehicleState) : CanFrame where
  arbitrationId := kDmeAirLoadFrameId
  payloadLength := kDmeAirLoadPayloadLength
  timestampMicroseconds := state.timestamp
  payload :=
    let payload := packU16LittleEndian zeroPayload 0
      (encodeScaledU16 state.manifoldPressureKpaAbsolute 0.1 0)
    let payload := payload.setIfInBounds 2 (encodeNormalizedU8 state.acceleratorPedalPosition)
    payload.setIfInBounds 3 (encodeNormalizedU8 state.requestedScenarioLoad)

/-- `make_dme_thermal_electrical_frame`. -/
def makeDmeThermalElectricalFrame (state : VehicleState) : CanFrame where
  arbitrationId := kDmeThermalElectricalFrameId
  payloadLength := kDmeThermalElectricalPayloadLength
  timestampMicroseconds := state.timestamp
  payload :=
    let payload := packU16LittleEndian zeroPayload 0
      (encodeScaledU16 state.coolantTemperatureCelsius 0.1 (-100))
    let payload := packU16LittleEndian payload 2
      (encodeScaledU16 state.oilTemperatureCelsius 0.1 (-100))
    let payload := packU16LittleEndian payload 4
      (encodeScaledU16 state.intakeAirTemperatureCelsius 0.1 (-100))
    payload.setIfInBounds 6 (encodeScaledU8 state.batteryVoltageVolts 0.1 0)

/-- `make_dme_combustion_observation_frame`. -/
def makeDmeCombustionObservationFrame (state : VehicleState) : CanFrame where
  arbitrationId := kDmeCombustionObservationFrameId
  payloadLength := kDmeCombustionObservationPayloadLength
  timestampMicroseconds := state.timestamp
  payload :=
    let payload := zeroPayload.setIfInBounds 0 (encodeScaledU8 state.lambda 0.01 0)
    packU16LittleEndian payload 1 (encodeScaledU16 state.ignitionAdvanceDegrees 0.1 (-100))

end TunerOs
