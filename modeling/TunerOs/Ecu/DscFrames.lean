-- SUMMARY: The two frames of the simulated DSC.
import TunerOs.Ecu.DmeFrames
import TunerOs.Simulator.Faults

/-!
# DSC frames
-/

namespace TunerOs

def kDscVehicleMotionFrameId : UInt16 := 0x520
def kDscWheelSpeedsFrameId : UInt16 := 0x521

def kDscVehicleMotionPayloadLength : UInt8 := 3
def kDscWheelSpeedsPayloadLength : UInt8 := 8

def kDscSpeedScaleMetersPerSecond : ℚ := 0.01

/-- `encode_speed`. -/
def encodeSpeed (metersPerSecond : ℚ) : UInt16 :=
  encodeScaledU16 metersPerSecond kDscSpeedScaleMetersPerSecond 0

/-- `make_dsc_vehicle_motion_frame`. -/
def makeDscVehicleMotionFrame (state : VehicleState) : CanFrame where
  arbitrationId := kDscVehicleMotionFrameId
  payloadLength := kDscVehicleMotionPayloadLength
  timestampMicroseconds := state.timestamp
  payload :=
    let payload := packU16LittleEndian zeroPayload 0 (encodeSpeed state.vehicleSpeedMetersPerSecond)
    payload.setIfInBounds 2 (UInt8.ofNat (max 0 state.currentGear.toInt).toNat)

/-- `make_dsc_wheel_speeds_frame(state, wheel_speeds_meters_per_second)`. -/
def makeDscWheelSpeedsFrameFrom (state : VehicleState) (wheelSpeeds : WheelSpeeds) : CanFrame where
  arbitrationId := kDscWheelSpeedsFrameId
  payloadLength := kDscWheelSpeedsPayloadLength
  timestampMicroseconds := state.timestamp
  payload := (List.finRange 4).foldl (fun payload (index : Fin 4) =>
    packU16LittleEndian payload (index.val * 2) (encodeSpeed wheelSpeeds[index])) zeroPayload

/-- `make_dsc_wheel_speeds_frame(state)`: all four wheels turn at vehicle speed. -/
def makeDscWheelSpeedsFrame (state : VehicleState) : CanFrame :=
  makeDscWheelSpeedsFrameFrom state (Vector.replicate 4 state.vehicleSpeedMetersPerSecond)

end TunerOs
