-- SUMMARY: The DBC-backed decoder: frame lookup by arbitration ID, the fixed payload check, and typed signal values.
import TunerOs.Can.Models

/-!
# DBC decoder

`canmatrix` is a third-party package, so its `message.decode` is a field of the
decoder: a function of the message and the payload. The rest of `decode` is the
repository's own code.
-/

namespace TunerOs

open Containers

/-- One `SG_` line: an Intel-order unsigned signal with `raw * factor + offset`. -/
structure DbcSignal where
  name : String
  startBit : ℕ
  size : ℕ
  factor : ℚ
  offset : ℚ
  unit : String
deriving DecidableEq

/-- One `BO_` block together with its `GenMsgCycleTime`. Signal names do not repeat. -/
structure DbcMessage where
  arbitrationId : ℕ
  name : String
  size : ℕ
  transmitter : String
  cycleTimeMilliseconds : ℕ
  signals : List DbcSignal
  names_nodup : (signals.map (·.name)).Nodup
deriving DecidableEq

/-- The two views of a decoded signal that the repository reads. -/
structure CanmatrixValue where
  rawValue : ℕ
  physValue : ℚ
deriving DecidableEq

/-- `TunerOsDbcDecoder`: the loaded database and the `canmatrix` payload decoding.
`none` stands for `canmatrix.DecodingFrameLength`. -/
structure Decoder where
  messages : List DbcMessage
  ids_nodup : (messages.map (·.arbitrationId)).Nodup
  messageDecode : DbcMessage → Bytes → Option (Dict String CanmatrixValue)

namespace DbcMessage

/-- `CanMessageMetadata` of one database frame; cycle times become microseconds. -/
def metadata (message : DbcMessage) : CanMessageMetadata where
  arbitrationId := message.arbitrationId
  messageName := message.name
  transmitter := message.transmitter
  cycleTimeMicroseconds := message.cycleTimeMilliseconds * 1000
  signals := message.signals.map (fun signal => ⟨signal.name, signal.unit⟩)

end DbcMessage

namespace Decoder

def databaseMetadata (decoder : Decoder) : List CanMessageMetadata :=
  decoder.messages.map DbcMessage.metadata

/-- `_frames_by_id.get`. -/
def frameById (decoder : Decoder) (arbitrationId : ℕ) : Option DbcMessage :=
  decoder.messages.find? (·.arbitrationId = arbitrationId)

/-- `bool(raw_value)` for `EngineRunning`, `float(phys_value)` for every other signal. -/
def signalValue (name : String) (value : CanmatrixValue) : SignalValue :=
  if name = "EngineRunning" then .bool (value.rawValue ≠ 0) else .float value.physValue

/-- The typed `signals` mapping of a decoded frame. -/
def signalValues (decoded : Dict String CanmatrixValue) : Dict String SignalValue where
  entries := decoded.entries.map (fun entry => (entry.1, signalValue entry.1 entry.2))
  keys_nodup := by
    simpa [List.map_map, Function.comp_def] using decoded.keys_nodup

def unknownCanFrame (arbitrationId : ℕ) : PyException where
  cls := .unknownCanFrameError
  message := "CAN arbitration ID 0x" ++ formatHex 3 arbitrationId ++
    " is not defined by the TunerOS DBC"

def wrongDlc (message : DbcMessage) (payloadLength : ℕ) : PyException where
  cls := .malformedCanFrameError
  message := message.name ++ " requires DLC " ++ toString message.size ++ ", got " ++
    toString payloadLength

def couldNotDecode (message : DbcMessage) : PyException where
  cls := .malformedCanFrameError
  message := "could not decode " ++ message.name

def decode (decoder : Decoder) (frame : RawCanFrame) : Except PyException DecodedCanFrame :=
  match decoder.frameById frame.arbitrationId with
  | none => .error (unknownCanFrame frame.arbitrationId)
  | some message =>
    if frame.payloadLength ≠ message.size then
      .error (wrongDlc message frame.payloadLength)
    else
      match decoder.messageDecode message frame.payload with
      | none => .error (couldNotDecode message)
      | some decoded =>
        .ok {
          arbitrationId := frame.arbitrationId
          messageName := message.name
          timestampMicroseconds := frame.timestampMicroseconds
          signals := signalValues decoded }

/-- What a successful decode returns: the message is in the database, the payload has its
size, and the frame keeps its identity and time. -/
theorem decode_ok {decoder : Decoder} {frame : RawCanFrame} {decoded : DecodedCanFrame}
    (h : decoder.decode frame = .ok decoded) :
    ∃ message values, decoder.frameById frame.arbitrationId = some message ∧
      frame.payloadLength = message.size ∧
      decoder.messageDecode message frame.payload = some values ∧
      decoded = ⟨frame.arbitrationId, message.name, frame.timestampMicroseconds,
        signalValues values⟩ := by
  unfold decode at h
  split at h
  · cases h
  · rename_i message hmessage
    split at h
    · cases h
    · rename_i hsize
      split at h
      · cases h
      · rename_i values hvalues
        cases h
        exact ⟨message, values, hmessage, by simpa using hsize, hvalues, rfl⟩

theorem decode_timestamp {decoder : Decoder} {frame : RawCanFrame} {decoded : DecodedCanFrame}
    (h : decoder.decode frame = .ok decoded) :
    decoded.timestampMicroseconds = frame.timestampMicroseconds := by
  obtain ⟨_, _, _, _, _, rfl⟩ := decode_ok h
  rfl

/-- What the repository relies on `canmatrix` for: a decoded payload has a value for every
signal of its message, and for nothing else. -/
def DecodesSignals (decoder : Decoder) : Prop :=
  ∀ message ∈ decoder.messages, ∀ payload values,
    decoder.messageDecode message payload = some values →
      ∀ name, name ∈ values.keys ↔ name ∈ message.signals.map (·.name)

/-- A failed decode raises one of the two `CanDecodeError` subclasses. -/
theorem decode_error_isCanDecodeError {decoder : Decoder} {frame : RawCanFrame}
    {error : PyException} (h : decoder.decode frame = .error error) :
    error.cls.isCanDecodeError = true := by
  unfold decode at h
  split at h
  · cases h; rfl
  · split at h
    · cases h; rfl
    · split at h <;> cases h
      rfl

theorem keys_signalValues (decoded : Dict String CanmatrixValue) :
    (signalValues decoded).keys = decoded.keys := by
  simp [signalValues, Dict.keys, List.map_map, Function.comp_def]

theorem get?_signalValues (decoded : Dict String CanmatrixValue) (name : String) :
    (signalValues decoded).get? name = (decoded.get? name).map (signalValue name) := by
  cases h : decoded.get? name with
  | none =>
    rw [Dict.get?_eq_none_iff, ← keys_signalValues, ← Dict.get?_eq_none_iff] at h
    simpa using h
  | some value =>
    rw [← Dict.mem_entries_iff] at h
    exact Dict.mem_entries_iff.1 (List.mem_map_of_mem
      (f := fun entry => (entry.1, signalValue entry.1 entry.2)) h)

/-- The metadata of the database names each ID once, as the messages do. -/
theorem find?_databaseMetadata (decoder : Decoder) (arbitrationId : ℕ) :
    decoder.databaseMetadata.find? (·.arbitrationId = arbitrationId) =
      (decoder.frameById arbitrationId).map DbcMessage.metadata := by
  unfold databaseMetadata frameById
  rw [List.find?_map]
  rfl

theorem frameById_mem {decoder : Decoder} {arbitrationId : ℕ} {message : DbcMessage}
    (h : decoder.frameById arbitrationId = some message) :
    message ∈ decoder.messages ∧ message.arbitrationId = arbitrationId := by
  unfold frameById at h
  exact ⟨List.mem_of_find?_eq_some h, by simpa using List.find?_some h⟩

/-- A decoded frame has exactly the signals of its message. -/
theorem DecodesSignals.keys {decoder : Decoder} (h : decoder.DecodesSignals)
    {frame : RawCanFrame} {decoded : DecodedCanFrame} (hdecode : decoder.decode frame = .ok decoded) :
    ∃ message, decoder.frameById frame.arbitrationId = some message ∧
      decoded.messageName = message.name ∧ decoded.arbitrationId = frame.arbitrationId ∧
      ∀ name, name ∈ decoded.signals.keys ↔ name ∈ message.signals.map (·.name) := by
  obtain ⟨message, values, hmessage, -, hvalues, rfl⟩ := decode_ok hdecode
  refine ⟨message, hmessage, rfl, rfl, ?_⟩
  intro name
  rw [keys_signalValues]
  exact h message (frameById_mem hmessage).1 _ _ hvalues name

end Decoder

end TunerOs
