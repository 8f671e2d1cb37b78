-- SUMMARY: The C++ Classic CAN frame, its validity, and the raw frame the backend observes for it.
import TunerOs.Can.Models

/-!
# Classic CAN frames of the simulator

`CanFrame` is the C++ value with its fixed-width fields. Its payload area always
has eight bytes; `payloadLength` says how many of them are the payload.
-/

namespace TunerOs

def kMaximumStandardArbitrationId : UInt16 := 0x7FF
def kMaximumClassicCanPayloadLength : ℕ := 8

/-- Canonical application-level Classic CAN data frame. -/
structure CanFrame where
  arbitrationId : UInt16
  payloadLength : UInt8
  payload : Vector UInt8 kMaximumClassicCanPayloadLength
  timestampMicroseconds : UInt64
deriving DecidableEq

namespace CanFrame

/-- `is_valid`. -/
def isValid (frame : CanFrame) : Prop :=
  frame.arbitrationId ≤ kMaximumStandardArbitrationId ∧ frame.payloadLength ≤ 8

instance (frame : CanFrame) : Decidable frame.isValid :=
  inferInstanceAs (Decidable (_ ∧ _))

/-- The first `payloadLength` bytes of the payload area. -/
def data (frame : CanFrame) : Bytes := frame.payload.toList.take frame.payloadLength.toNat

theorem length_data {frame : CanFrame} (h : frame.isValid) :
    frame.data.length = frame.payloadLength.toNat := by
  have hle : frame.payloadLength.toNat ≤ 8 := h.2
  rw [data, List.length_take, Vector.length_toList]
  exact min_eq_left hle

end CanFrame

/-- A frame with `is_valid(frame)`. -/
abbrev ValidCanFrame : Type := {frame : CanFrame // frame.isValid}

/-- What the backend observes of a valid frame: its ID, its payload and its timestamp. -/
def ValidCanFrame.rawCanFrame (frame : ValidCanFrame) : RawCanFrame where
  arbitrationId := frame.val.arbitrationId.toNat
  payload := frame.val.data
  timestampMicroseconds := frame.val.timestampMicroseconds.toNat
  arbitrationId_le := frame.property.1
  payload_length_le := by
    rw [CanFrame.length_data frame.property]
    exact frame.property.2

end TunerOs
