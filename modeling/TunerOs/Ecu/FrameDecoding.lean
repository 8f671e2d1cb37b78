-- SUMMARY: Decoding the ECU frames with the DBC gives each signal back from its own field, rounded and saturated.
import TunerOs.Can.Dbc
import TunerOs.Ecu.DscFrames

/-!
# Decoding the ECU frames

`SignalSource` says which field of the vehicle state a DBC signal carries and in
which steps its encoder counts. For each encoder the payload is computed once; the
bits of every signal are then the level of its field.
-/

namespace TunerOs

open ByteCodec Quantize

/-- The field a signal carries and the step its encoder uses. -/
structure SignalSource where
  signal : DbcSignal
  scale : ℚ
  field : VehicleState → WheelSpeeds → ℚ

namespace SignalSource

/-- The highest raw value of the signal. -/
def levels (source : SignalSource) : ℕ := 2 ^ source.signal.size - 1

/-- The raw value the signal should have. -/
def rawValue (source : SignalSource) (state : VehicleState) (wheelSpeeds : WheelSpeeds) : ℕ :=
  level source.levels source.scale source.signal.offset (source.field state wheelSpeeds)

end SignalSource

/-- A frame encoder with the DBC message it publishes. -/
structure FrameEncoder where
  message : DbcMessage
  encode : VehicleState → WheelSpeeds → CanFrame
  sources : List SignalSource

/-- Pair the signals of a message with their steps and fields, in DBC order. -/
def sourcesOf (message : DbcMessage) (fields : List (ℚ × (VehicleState → WheelSpeeds → ℚ))) :
    List SignalSource :=
  List.zipWith (fun signal field => ⟨signal, field.1, field.2⟩) message.signals fields

def dmeFastEngineEncoder : FrameEncoder where
  message := dmeFastEngine
  encode := fun state _ => makeDmeFastEngineFrame state
  sources := sourcesOf dmeFastEngine
    [(0.25, fun state _ => state.engineSpeedRpm),
      (1 / 255, fun state _ => state.throttlePosition),
      (1 / 255, fun state _ => state.engineLoad),
      (1, fun state _ => if state.engineRunning then 1 else 0)]

def dmeAirLoadEncoder : FrameEncoder where
  message := dmeAirLoad
  encode := fun state _ => makeDmeAirLoadFrame state
  sources := sourcesOf dmeAirLoad
    [(0.1, fun state _ => state.manifoldPressureKpaAbsolute),
      (1 / 255, fun state _ => state.acceleratorPedalPosition),
      (1 / 255, fun state _ => state.requestedScenarioLoad)]

def dmeThermalElectricalEncoder : FrameEncoder where
  message := dmeThermalElectrical
  encode := fun state _ => makeDmeThermalElectricalFrame state
  sources := sourcesOf dmeThermalElectrical
    [(0.1, fun state _ => state.coolantTemperatureCelsius),
      (0.1, fun state _ => state.oilTemperatureCelsius),
      (0.1, fun state _ => state.intakeAirTemperatureCelsius),
      (0.1, fun state _ => state.batteryVoltageVolts)]

def dmeCombustionObservationEncoder : FrameEncoder where
  message := dmeCombustionObservation
  encode := fun state _ => makeDmeCombustionObservationFrame state
  sources := sourcesOf dmeCombustionObservation
    [(0.01, fun state _ => state.lambda),
      (0.1, fun state _ => state.ignitionAdvanceDegrees)]

def dscVehicleMotionEncoder : FrameEncoder where
  message := dscVehicleMotion
  encode := fun state _ => makeDscVehicleMotionFrame state
  sources := sourcesOf dscVehicleMotion
    [(0.01, fun state _ => state.vehicleSpeedMetersPerSecond),
      (1, fun state _ => (state.currentGear.toInt : ℚ))]

def dscWheelSpeedsEncoderFrom : FrameEncoder where
  message := dscWheelSpeeds
  encode := makeDscWheelSpeedsFrameFrom
  sources := sourcesOf dscWheelSpeeds
    [(0.01, fun _ wheelSpeeds => wheelSpeeds.get 0), (0.01, fun _ wheelSpeeds => wheelSpeeds.get 1),
      (0.01, fun _ wheelSpeeds => wheelSpeeds.get 2), (0.01, fun _ wheelSpeeds => wheelSpeeds.get 3)]

def dscWheelSpeedsEncoder : FrameEncoder where
  message := dscWheelSpeeds
  encode := fun state _ => makeDscWheelSpeedsFrame state
  sources := sourcesOf dscWheelSpeeds
    [(0.01, fun state _ => state.vehicleSpeedMetersPerSecond),
      (0.01, fun state _ => state.vehicleSpeedMetersPerSecond),
      (0.01, fun state _ => state.vehicleSpeedMetersPerSecond),
      (0.01, fun state _ => state.vehicleSpeedMetersPerSecond)]

/-- The encoders of the six messages; wheel speeds have two overloads. -/
def frameEncoders : List FrameEncoder :=
  [dmeFastEngineEncoder, dmeAirLoadEncoder, dmeThermalElectricalEncoder,
    dmeCombustionObservationEncoder, dscVehicleMotionEncoder, dscWheelSpeedsEncoderFrom,
    dscWheelSpeedsEncoder]

/-! ## The payload of each encoder -/

/-- What a frame must be to carry its message: the layout is the DBC's, everything outside it is
zero, and every signal holds the level of its field. -/
structure FrameEncoder.Carries (encoder : FrameEncoder) (state : VehicleState)
    (wheelSpeeds : WheelSpeeds) : Prop where
  arbitrationId :
    (encoder.encode state wheelSpeeds).arbitrationId.toNat = encoder.message.arbitrationId
  payloadLength : (encoder.encode state wheelSpeeds).payloadLength.toNat = encoder.message.size
  size_le : encoder.message.size ≤ 8
  timestamp : (encoder.encode state wheelSpeeds).timestampMicroseconds = state.timestamp
  padding : (encoder.encode state wheelSpeeds).payload.toList =
    (encoder.encode state wheelSpeeds).data ++ List.replicate (8 - encoder.message.size) 0
  undefinedBits : ∀ bit, (∀ signal ∈ encoder.message.signals, ¬ signal.Covers bit) →
    ofLittleEndian (encoder.encode state wheelSpeeds).data < 2 ^ bit
  rawValues : ∀ source ∈ encoder.sources,
    bitField (encoder.encode state wheelSpeeds).data source.signal.startBit source.signal.size =
      source.rawValue state wheelSpeeds

/-- Bytes that the signals cover to the last bit hold no undefined bits. -/
theorem lt_two_pow_of_covered {data : Bytes} {bit : ℕ} (h : 8 * data.length ≤ bit) :
    ofLittleEndian data < 2 ^ bit := by
  calc ofLittleEndian data < 256 ^ data.length := ofLittleEndian_lt data
    _ = 2 ^ (8 * data.length) := by rw [pow_mul]; rfl
    _ ≤ 2 ^ bit := Nat.pow_le_pow_right (by decide) h

/-- `EngineRunning` is one bit of a byte that is zero or one. -/
theorem engineRunning_level (running : Bool) :
    (if running then 0x01 else 0x00 : UInt8).toNat % 2 =
      level (2 ^ 1 - 1) (1 : ℚ) 0 (if running then 1 else 0) := by
  cases running with
  | false => exact (level_of_le one_pos le_rfl).symm
  | true =>
    have htop : ((2 ^ 1 - 1 : ℕ) : ℚ) * 1 + 0 ≤ 1 := by norm_num
    exact (level_of_ge one_pos htop).symm

/-- A gear is its own level; reverse gears, which the model does not have, saturate at neutral. -/
theorem currentGear_level (gear : Int8) :
    (UInt8.ofNat (max 0 gear.toInt).toNat).toNat =
      level (2 ^ 8 - 1) (1 : ℚ) 0 (gear.toInt : ℚ) := by
  have hgear := gear.toInt_lt
  rw [level_intCast, UInt8.toNat_ofNat_of_lt' (by rw [UInt8.size]; omega)]
  omega

section Carries

variable (state : VehicleState) (wheelSpeeds : WheelSpeeds)

theorem dmeFastEngine_carries : dmeFastEngineEncoder.Carries state wheelSpeeds where
  arbitrationId := rfl
  payloadLength := rfl
  size_le := by decide
  timestamp := rfl
  padding := rfl
  undefinedBits := by
    intro bit hbit
    simp only [dmeFastEngineEncoder, dmeFastEngine, DbcSignal.Covers, List.forall_mem_cons] at hbit
    have hbit33 : 33 ≤ bit := by omega
    -- the last byte is zero or one, so its upper seven bits are undefined and zero
    have hdata : (makeDmeFastEngineFrame state).data =
        (packedBytes (encodeScaledU16 state.engineSpeedRpm 0.25 0) ++
          [encodeNormalizedU8 state.throttlePosition, encodeNormalizedU8 state.engineLoad]) ++
        [if state.engineRunning then 0x01 else 0x00] := rfl
    have hfront := ofLittleEndian_lt (packedBytes (encodeScaledU16 state.engineSpeedRpm 0.25 0) ++
      [encodeNormalizedU8 state.throttlePosition, encodeNormalizedU8 state.engineLoad])
    have hlast : ofLittleEndian [if state.engineRunning then 0x01 else 0x00] ≤ 1 := by
      cases state.engineRunning <;> decide
    refine lt_of_lt_of_le ?_ (Nat.pow_le_pow_right (by decide) hbit33)
    change ofLittleEndian (makeDmeFastEngineFrame state).data < 2 ^ 33
    rw [hdata, ofLittleEndian_append]
    simp only [packedBytes, List.cons_append, List.nil_append, List.length_cons,
      List.length_nil] at hfront ⊢
    omega
  rawValues := by
    simp only [dmeFastEngineEncoder, sourcesOf, dmeFastEngine, List.zipWith_cons_cons,
      List.zipWith_nil_left, List.forall_mem_cons]
    refine ⟨?_, ?_, ?_, ?_, by simp⟩
    · exact (bitField_packed (k := 0) rfl).trans (toNat_encodeScaledU16 ..)
    · exact (bitField_byte (k := 2) rfl).trans (toNat_encodeScaledU8 ..)
    · exact (bitField_byte (k := 3) rfl).trans (toNat_encodeScaledU8 ..)
    · exact (bitField_bit (k := 4) rfl).trans (engineRunning_level state.engineRunning)

theorem dmeAirLoad_carries : dmeAirLoadEncoder.Carries state wheelSpeeds where
  arbitrationId := rfl
  payloadLength := rfl
  size_le := by decide
  timestamp := rfl
  padding := rfl
  undefinedBits := by
    intro bit hbit
    simp only [dmeAirLoadEncoder, dmeAirLoad, DbcSignal.Covers, List.forall_mem_cons] at hbit
    exact lt_two_pow_of_covered (by change 8 * 4 ≤ bit; omega)
  rawValues := by
    simp only [dmeAirLoadEncoder, sourcesOf, dmeAirLoad, List.zipWith_cons_cons,
      List.zipWith_nil_left, List.forall_mem_cons]
    refine ⟨?_, ?_, ?_, by simp⟩
    · exact (bitField_packed (k := 0) rfl).trans (toNat_encodeScaledU16 ..)
    · exact (bitField_byte (k := 2) rfl).trans (toNat_encodeScaledU8 ..)
    · exact (bitField_byte (k := 3) rfl).trans (toNat_encodeScaledU8 ..)

theorem dmeThermalElectrical_carries :
    dmeThermalElectricalEncoder.Carries state wheelSpeeds where
  arbitrationId := rfl
  payloadLength := rfl
  size_le := by decide
  timestamp := rfl
  padding := rfl
  undefinedBits := by
    intro bit hbit
    simp only [dmeThermalElectricalEncoder, dmeThermalElectrical, DbcSignal.Covers,
      List.forall_mem_cons] at hbit
    exact lt_two_pow_of_covered (by change 8 * 7 ≤ bit; omega)
  rawValues := by
    simp only [dmeThermalElectricalEncoder, sourcesOf, dmeThermalElectrical,
      List.zipWith_cons_cons, List.zipWith_nil_left, List.forall_mem_cons]
    refine ⟨?_, ?_, ?_, ?_, by simp⟩
    · exact (bitField_packed (k := 0) rfl).trans (toNat_encodeScaledU16 ..)
    · exact (bitField_packed (k := 2) rfl).trans (toNat_encodeScaledU16 ..)
    · exact (bitField_packed (k := 4) rfl).trans (toNat_encodeScaledU16 ..)
    · exact (bitField_byte (k := 6) rfl).trans (toNat_encodeScaledU8 ..)

theorem dmeCombustionObservation_carries :
    dmeCombustionObservationEncoder.Carries state wheelSpeeds where
  arbitrationId := rfl
  payloadLength := rfl
  size_le := by decide
  timestamp := rfl
  padding := rfl
  undefinedBits := by
    intro bit hbit
    simp only [dmeCombustionObservationEncoder, dmeCombustionObservation, DbcSignal.Covers,
      List.forall_mem_cons] at hbit
    exact lt_two_pow_of_covered (by change 8 * 3 ≤ bit; omega)
  rawValues := by
    simp only [dmeCombustionObservationEncoder, sourcesOf, dmeCombustionObservation,
      List.zipWith_cons_cons, List.zipWith_nil_left, List.forall_mem_cons]
    refine ⟨?_, ?_, by simp⟩
    · exact (bitField_byte (k := 0) rfl).trans (toNat_encodeScaledU8 ..)
    · exact (bitField_packed (k := 1) rfl).trans (toNat_encodeScaledU16 ..)

theorem dscVehicleMotion_carries : dscVehicleMotionEncoder.Carries state wheelSpeeds where
  arbitrationId := rfl
  payloadLength := rfl
  size_le := by decide
  timestamp := rfl
  padding := rfl
  undefinedBits := by
    intro bit hbit
    simp only [dscVehicleMotionEncoder, dscVehicleMotion, DbcSignal.Covers,
      List.forall_mem_cons] at hbit
    exact lt_two_pow_of_covered (by change 8 * 3 ≤ bit; omega)
  rawValues := by
    simp only [dscVehicleMotionEncoder, sourcesOf, dscVehicleMotion, List.zipWith_cons_cons,
      List.zipWith_nil_left, List.forall_mem_cons]
    refine ⟨?_, ?_, by simp⟩
    · exact (bitField_packed (k := 0) rfl).trans (toNat_encodeScaledU16 ..)
    · exact (bitField_byte (k := 2) rfl).trans (currentGear_level state.currentGear)

/-- The four packing steps of the loop fill the payload. -/
theorem dscWheelSpeeds_payload :
    (makeDscWheelSpeedsFrameFrom state wheelSpeeds).payload.toList =
      packedBytes (encodeSpeed (wheelSpeeds.get 0)) ++ packedBytes (encodeSpeed (wheelSpeeds.get 1)) ++
        packedBytes (encodeSpeed (wheelSpeeds.get 2)) ++ packedBytes (encodeSpeed (wheelSpeeds.get 3)) := rfl

theorem dscWheelSpeeds_data :
    (makeDscWheelSpeedsFrameFrom state wheelSpeeds).data =
      packedBytes (encodeSpeed (wheelSpeeds.get 0)) ++ packedBytes (encodeSpeed (wheelSpeeds.get 1)) ++
        packedBytes (encodeSpeed (wheelSpeeds.get 2)) ++ packedBytes (encodeSpeed (wheelSpeeds.get 3)) := by
  rw [CanFrame.data, dscWheelSpeeds_payload]
  rfl

theorem dscWheelSpeedsFrom_carries : dscWheelSpeedsEncoderFrom.Carries state wheelSpeeds where
  arbitrationId := rfl
  payloadLength := rfl
  size_le := by decide
  timestamp := rfl
  padding := by
    change (makeDscWheelSpeedsFrameFrom state wheelSpeeds).payload.toList =
      (makeDscWheelSpeedsFrameFrom state wheelSpeeds).data ++ List.replicate (8 - 8) 0
    rw [dscWheelSpeeds_data, dscWheelSpeeds_payload]
    rfl
  undefinedBits := by
    intro bit hbit
    simp only [dscWheelSpeedsEncoderFrom, dscWheelSpeeds, DbcSignal.Covers,
      List.forall_mem_cons] at hbit
    refine lt_two_pow_of_covered ?_
    change 8 * (makeDscWheelSpeedsFrameFrom state wheelSpeeds).data.length ≤ bit
    rw [dscWheelSpeeds_data]
    change 8 * 8 ≤ bit
    omega
  rawValues := by
    simp only [dscWheelSpeedsEncoderFrom, sourcesOf, dscWheelSpeeds, List.zipWith_cons_cons,
      List.zipWith_nil_left, List.forall_mem_cons, dscWheelSpeeds_data]
    refine ⟨?_, ?_, ?_, ?_, by simp⟩
    · exact (bitField_packed (k := 0) rfl).trans (toNat_encodeScaledU16 ..)
    · exact (bitField_packed (k := 2) rfl).trans (toNat_encodeScaledU16 ..)
    · exact (bitField_packed (k := 4) rfl).trans (toNat_encodeScaledU16 ..)
    · exact (bitField_packed (k := 6) rfl).trans (toNat_encodeScaledU16 ..)

/-- The overload without wheel speeds is the other one at vehicle speed. -/
theorem dscWheelSpeeds_carries : dscWheelSpeedsEncoder.Carries state wheelSpeeds := by
  have hfrom := dscWheelSpeedsFrom_carries state
    (Vector.replicate 4 state.vehicleSpeedMetersPerSecond)
  have hencode : dscWheelSpeedsEncoder.encode state wheelSpeeds =
      dscWheelSpeedsEncoderFrom.encode state
        (Vector.replicate 4 state.vehicleSpeedMetersPerSecond) := rfl
  have hraw := hfrom.rawValues
  refine ⟨?_, ?_, hfrom.size_le, ?_, ?_, ?_, ?_⟩
  · exact hencode ▸ hfrom.arbitrationId
  · exact hencode ▸ hfrom.payloadLength
  · exact hencode ▸ hfrom.timestamp
  · exact hencode ▸ hfrom.padding
  · exact hencode ▸ hfrom.undefinedBits
  · rw [hencode]
    generalize (dscWheelSpeedsEncoderFrom.encode state
      (Vector.replicate 4 state.vehicleSpeedMetersPerSecond)).data = data at hraw ⊢
    simp only [dscWheelSpeedsEncoderFrom, dscWheelSpeedsEncoder, sourcesOf, dscWheelSpeeds,
      List.zipWith_cons_cons, List.zipWith_nil_left, List.forall_mem_cons] at hraw ⊢
    exact ⟨hraw.1, hraw.2.1, hraw.2.2.1, hraw.2.2.2.1, by simp⟩

end Carries

theorem frameEncoder_carries {encoder : FrameEncoder} (h : encoder ∈ frameEncoders)
    (state : VehicleState) (wheelSpeeds : WheelSpeeds) : encoder.Carries state wheelSpeeds := by
  simp only [frameEncoders, List.mem_cons, List.not_mem_nil, or_false] at h
  rcases h with rfl | rfl | rfl | rfl | rfl | rfl | rfl
  · exact dmeFastEngine_carries state wheelSpeeds
  · exact dmeAirLoad_carries state wheelSpeeds
  · exact dmeThermalElectrical_carries state wheelSpeeds
  · exact dmeCombustionObservation_carries state wheelSpeeds
  · exact dscVehicleMotion_carries state wheelSpeeds
  · exact dscWheelSpeedsFrom_carries state wheelSpeeds
  · exact dscWheelSpeeds_carries state wheelSpeeds

/-! ## Decoding -/

/-- Steps are positive, and a DBC factor is the encoder's step, except that the DBC spells 1/255
with seventeen decimals. -/
theorem steps_of_source {encoder : FrameEncoder} (h : encoder ∈ frameEncoders) :
    encoder.sources.map (·.signal) = encoder.message.signals ∧
    ∀ source ∈ encoder.sources, 0 < source.scale ∧ 0 < source.signal.factor ∧
      (source.signal.factor = source.scale ∨
        source.scale = 1 / 255 ∧ source.signal.factor = 0.00392156862745098) := by
  simp only [frameEncoders, List.mem_cons, List.not_mem_nil, or_false] at h
  rcases h with rfl | rfl | rfl | rfl | rfl | rfl | rfl
  all_goals
    refine ⟨rfl, ?_⟩
    simp only [dmeFastEngineEncoder, dmeAirLoadEncoder, dmeThermalElectricalEncoder,
      dmeCombustionObservationEncoder, dscVehicleMotionEncoder, dscWheelSpeedsEncoderFrom,
      dscWheelSpeedsEncoder, sourcesOf, dmeFastEngine, dmeAirLoad, dmeThermalElectrical,
      dmeCombustionObservation, dscVehicleMotion, dscWheelSpeeds, normalizedFactor,
      List.zipWith_cons_cons, List.zipWith_nil_left, List.forall_mem_cons, List.not_mem_nil,
      false_implies, implies_true, and_true]
    norm_num

namespace FrameEncoder

variable {encoder : FrameEncoder} {state : VehicleState} {wheelSpeeds : WheelSpeeds}

/-- The engineering value the DBC gives a signal in the encoded frame. -/
def decodedValue (encoder : FrameEncoder) (signal : DbcSignal) (state : VehicleState)
    (wheelSpeeds : WheelSpeeds) : ℚ :=
  (signal.decode (encoder.encode state wheelSpeeds).data).physValue

theorem Carries.isValid (h : encoder.Carries state wheelSpeeds)
    (hid : encoder.message.arbitrationId ≤ 0x7FF) :
    (encoder.encode state wheelSpeeds).isValid := by
  have hlength := h.payloadLength
  have harbitration := h.arbitrationId
  have hsize := h.size_le
  refine ⟨UInt16.le_iff_toNat_le.2 ?_, UInt8.le_iff_toNat_le.2 ?_⟩
  · rw [harbitration]
    exact hid
  · rw [hlength]
    exact hsize

theorem Carries.decodedValue (h : encoder.Carries state wheelSpeeds) {source : SignalSource}
    (hsource : source ∈ encoder.sources) :
    encoder.decodedValue source.signal state wheelSpeeds =
      source.rawValue state wheelSpeeds * source.signal.factor + source.signal.offset := by
  rw [FrameEncoder.decodedValue, DbcSignal.decode, h.rawValues source hsource]

/-- Bits outside every signal are zero in the whole payload area. -/
theorem Carries.testBit (h : encoder.Carries state wheelSpeeds) {bit : ℕ}
    (hbit : ∀ signal ∈ encoder.message.signals, ¬ signal.Covers bit) :
    (ofLittleEndian (encoder.encode state wheelSpeeds).payload.toList).testBit bit = false := by
  rw [h.padding, ofLittleEndian_append, ofLittleEndian_zeros, Nat.mul_zero, Nat.add_zero]
  exact Nat.testBit_lt_two_pow (h.undefinedBits bit hbit)

end FrameEncoder

theorem messages_of_frameEncoders :
    (∀ message ∈ packagedMessages, ∃ encoder ∈ frameEncoders, encoder.message = message) ∧
    ∀ encoder ∈ frameEncoders, encoder.message.arbitrationId ≤ 0x7FF := by
  simp only [packagedMessages, frameEncoders, dmeFastEngineEncoder, dmeAirLoadEncoder,
    dmeThermalElectricalEncoder, dmeCombustionObservationEncoder, dscVehicleMotionEncoder,
    dscWheelSpeedsEncoderFrom, dscWheelSpeedsEncoder, List.forall_mem_cons, List.exists_mem_cons_iff,
    List.not_mem_nil, false_implies, implies_true, and_true, true_or, or_true]
  decide

/-- For every state and wheel speeds, each encoder's frame is valid and has the ID, the size and
the time of its message, all undefined bits and padding bytes are zero, and the DBC decodes every
signal to the level of its own field: within half a step in range, the nearest endpoint outside,
monotone in the field and a function of it alone. The encoders cover the six DBC messages. -/
theorem encoded_frames_decode_to_their_fields :
    (∀ message ∈ packagedMessages, ∃ encoder ∈ frameEncoders, encoder.message = message) ∧
    ∀ encoder ∈ frameEncoders,
    encoder.sources.map (·.signal) = encoder.message.signals ∧
    ∀ (state : VehicleState) (wheelSpeeds : WheelSpeeds),
    let frame := encoder.encode state wheelSpeeds
    (frame.isValid ∧ frame.arbitrationId.toNat = encoder.message.arbitrationId ∧
      frame.payloadLength.toNat = encoder.message.size ∧
      frame.timestampMicroseconds = state.timestamp) ∧
    frame.payload.toList = frame.data ++ List.replicate (8 - encoder.message.size) 0 ∧
    (∀ bit, (∀ signal ∈ encoder.message.signals, ¬ signal.Covers bit) →
      (ofLittleEndian frame.payload.toList).testBit bit = false) ∧
    (∃ values, encoder.message.intelDecode frame.data = some values ∧
      ∀ source ∈ encoder.sources, values.get? source.signal.name =
        some ⟨source.rawValue state wheelSpeeds,
          encoder.decodedValue source.signal state wheelSpeeds⟩) ∧
    ∀ source ∈ encoder.sources,
      let v := source.field state wheelSpeeds
      let offset := source.signal.offset
      let value := encoder.decodedValue source.signal state wheelSpeeds
      let raw := level source.levels source.scale offset v
      let top := source.levels * source.scale + offset
      value = raw * source.signal.factor + offset ∧
      (offset ≤ v → v ≤ top →
        |value - v| ≤ source.scale / 2 + raw * |source.signal.factor - source.scale|) ∧
      (source.signal.factor = source.scale ∨
        source.scale = 1 / 255 ∧ source.signal.factor = 0.00392156862745098) ∧
      (v ≤ offset → value = offset) ∧
      (top ≤ v → value = source.levels * source.signal.factor + offset) ∧
      ∀ (other : VehicleState) (otherSpeeds : WheelSpeeds),
        (v ≤ source.field other otherSpeeds →
          value ≤ encoder.decodedValue source.signal other otherSpeeds) ∧
        (v = source.field other otherSpeeds →
          value = encoder.decodedValue source.signal other otherSpeeds) := by
  refine ⟨messages_of_frameEncoders.1, ?_⟩
  intro encoder hencoder
  obtain ⟨hsignals, hsteps⟩ := steps_of_source hencoder
  refine ⟨hsignals, ?_⟩
  intro state wheelSpeeds
  have hcarries := frameEncoder_carries hencoder state wheelSpeeds
  have hvalid := hcarries.isValid (messages_of_frameEncoders.2 encoder hencoder)
  refine ⟨⟨hvalid, hcarries.arbitrationId, hcarries.payloadLength, hcarries.timestamp⟩,
    hcarries.padding, fun bit hbit => hcarries.testBit hbit, ?_, ?_⟩
  · have hlength : (encoder.encode state wheelSpeeds).data.length = encoder.message.size := by
      rw [CanFrame.length_data hvalid, hcarries.payloadLength]
    refine ⟨encoder.message.signalValues (encoder.encode state wheelSpeeds).data, ?_, ?_⟩
    · rw [DbcMessage.intelDecode, if_pos hlength]
    · intro source hsource
      have hsignal : source.signal ∈ encoder.message.signals :=
        hsignals ▸ List.mem_map_of_mem hsource
      rw [encoder.message.get?_signalValues hsignal, ← hcarries.rawValues source hsource]
      rfl
  · intro source hsource v offset value raw top
    -- What is left is about one level of one signal: its bounds, its step and its order.
    obtain ⟨hscale, hfactor, hdifference⟩ := hsteps source hsource
    have hvalue : value = raw * source.signal.factor + offset := hcarries.decodedValue hsource
    refine ⟨hvalue, ?_, hdifference, ?_, ?_, ?_⟩
    · intro hlow hhigh
      rw [hvalue]
      exact abs_level_sub_le hscale hlow hhigh
    · intro hlow
      have hraw : raw = 0 := level_of_le hscale hlow
      rw [hvalue, hraw, Nat.cast_zero, zero_mul, zero_add]
    · intro hhigh
      have hraw : raw = source.levels := level_of_ge hscale hhigh
      rw [hvalue, hraw]
    · intro other otherSpeeds
      have hother := (frameEncoder_carries hencoder other otherSpeeds).decodedValue hsource
      refine ⟨?_, ?_⟩
      · intro hle
        have hraw : raw ≤ source.rawValue other otherSpeeds := level_mono hscale hle
        rw [hvalue, hother]
        gcongr
      · intro heq
        have hraw : raw = source.rawValue other otherSpeeds := by
          rw [SignalSource.rawValue, ← heq]
        rw [hvalue, hother, hraw]

end TunerOs
