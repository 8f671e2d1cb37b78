-- SUMMARY: The raw and decoded CAN frame contracts of the backend, and the DBC metadata they are decoded with.
import TunerOs.Exceptions
import TunerOs.Lib.Dict
import Mathlib.Data.Rat.Defs

/-!
# CAN boundary contracts

`RawCanFrame` is an observed Classic CAN frame; its range checks are fields, so an
invalid frame cannot be built. `DecodedCanFrame` maps signal names to engineering
values. Floats are exact rationals.
-/

namespace TunerOs

open Containers

abbrev Bytes : Type := List UInt8

/-- `float | int | bool`. -/
inductive SignalValue where
  | float (value : ℚ)
  | int (value : ℤ)
  | bool (value : Bool)
deriving DecidableEq

/-- Observed standard Classic CAN data frame using simulation time. -/
structure RawCanFrame where
  arbitrationId : ℕ
  payload : Bytes
  timestampMicroseconds : ℕ
  arbitrationId_le : arbitrationId ≤ 0x7FF
  payload_length_le : payload.length ≤ 8
deriving DecidableEq

@[ext] theorem RawCanFrame.ext {f g : RawCanFrame} (hid : f.arbitrationId = g.arbitrationId)
    (hpayload : f.payload = g.payload)
    (htime : f.timestampMicroseconds = g.timestampMicroseconds) : f = g := by
  cases f; cases g; cases hid; cases hpayload; cases htime; rfl

/-- A frame of the message `DmeFastEngine`. -/
def fastEngineFrame (timestampMicroseconds : ℕ) : RawCanFrame :=
  ⟨0x500, [0x80, 0x0C, 50, 60, 1], timestampMicroseconds, by decide, by decide⟩

/-- A frame of the message `DmeThermalElectrical`, with the coolant at 120 degrees. -/
def hotFrame (timestampMicroseconds : ℕ) : RawCanFrame :=
  ⟨0x502, [0x98, 0x08, 0xD0, 0x07, 0xE2, 0x04, 0x8D], timestampMicroseconds, by decide, by decide⟩

/-- A frame of no message of the database. -/
def unlistedFrame : RawCanFrame :=
  { fastEngineFrame 1000 with
    arbitrationId := 0x7FF
    arbitrationId_le := le_rfl }

def RawCanFrame.payloadLength (frame : RawCanFrame) : ℕ := frame.payload.length

/-- Engineering-unit signals decoded from one raw CAN frame. -/
structure DecodedCanFrame where
  arbitrationId : ℕ
  messageName : String
  timestampMicroseconds : ℕ
  signals : Dict String SignalValue
deriving DecidableEq

/-- DBC-derived metadata for one decoded signal. -/
structure CanSignalMetadata where
  signalName : String
  unit : String
deriving DecidableEq

/-- DBC-derived metadata for one decoded message. -/
structure CanMessageMetadata where
  arbitrationId : ℕ
  messageName : String
  transmitter : String
  cycleTimeMicroseconds : ℕ
  signals : List CanSignalMetadata
deriving DecidableEq

end TunerOs
