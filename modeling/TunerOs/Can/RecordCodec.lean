-- SUMMARY: The backend's codec for one fixed-size raw CAN record, and its round trip.
import TunerOs.Can.Models
import TunerOs.Lib.ByteCodec
import Mathlib.Data.List.Chain

/-!
# Raw CAN records

`struct.Struct("!QHB8s")`: timestamp, arbitration ID, DLC and the zero-filled
payload, 19 bytes in network byte order. Timestamps of a `RawCanFrame` are
unbounded, so packing fails from `2 ^ 64` on.
-/

namespace TunerOs

open ByteCodec

def rawCanRecordSize : ℕ := 19

def timestampTooLarge : PyException :=
  ⟨.structError, "'Q' format requires 0 <= number <= 18446744073709551615"⟩

/-- `encode_raw_can_record`. -/
def encodeRawCanRecord (frame : RawCanFrame) : Except PyException Bytes :=
  if 2 ^ 64 ≤ frame.timestampMicroseconds then .error timestampTooLarge
  else
    .ok (bigEndian 8 frame.timestampMicroseconds ++ bigEndian 2 frame.arbitrationId ++
      bigEndian 1 frame.payloadLength ++ ljust 8 frame.payload)

def wrongRecordSize (length : ℕ) : PyException where
  cls := .rawCanRecordError
  message := "raw CAN record requires " ++ toString rawCanRecordSize ++ " bytes, got " ++
    toString length

def invalidArbitrationId (arbitrationId : ℕ) : PyException where
  cls := .rawCanRecordError
  message := "invalid standard CAN arbitration ID 0x" ++ formatHex 1 arbitrationId

def invalidDlc (dlc : ℕ) : PyException :=
  ⟨.rawCanRecordError, "invalid Classic CAN DLC " ++ toString dlc⟩

/-- `decode_raw_can_record`. -/
def decodeRawCanRecord (data : Bytes) : Except PyException RawCanFrame :=
  if data.length ≠ rawCanRecordSize then .error (wrongRecordSize data.length)
  else
    let timestamp := ofBigEndian (data.take 8)
    let arbitrationId := ofBigEndian ((data.drop 8).take 2)
    let dlc := ofBigEndian ((data.drop 10).take 1)
    let paddedPayload := data.drop 11
    if hid : arbitrationId > 0x7FF then .error (invalidArbitrationId arbitrationId)
    else if hdlc : dlc > 8 then .error (invalidDlc dlc)
    else
      .ok {
        arbitrationId := arbitrationId
        payload := paddedPayload.take dlc
        timestampMicroseconds := timestamp
        arbitrationId_le := by omega
        payload_length_le := by
          rw [List.length_take]
          omega }

theorem encodeRawCanRecord_ok {frame : RawCanFrame} {record : Bytes}
    (h : encodeRawCanRecord frame = .ok record) :
    frame.timestampMicroseconds < 2 ^ 64 ∧
    record = bigEndian 8 frame.timestampMicroseconds ++ bigEndian 2 frame.arbitrationId ++
      bigEndian 1 frame.payloadLength ++ ljust 8 frame.payload := by
  unfold encodeRawCanRecord at h
  split at h
  · cases h
  · rename_i htime
    cases h
    exact ⟨by omega, rfl⟩

theorem length_encodeRawCanRecord {frame : RawCanFrame} {record : Bytes}
    (h : encodeRawCanRecord frame = .ok record) : record.length = rawCanRecordSize := by
  obtain ⟨-, rfl⟩ := encodeRawCanRecord_ok h
  simp [length_ljust frame.payload_length_le, rawCanRecordSize]

/-- Decoding an encoded frame gives the frame back. -/
theorem decode_encodeRawCanRecord {frame : RawCanFrame} {record : Bytes}
    (h : encodeRawCanRecord frame = .ok record) : decodeRawCanRecord record = .ok frame := by
  have hlength := length_encodeRawCanRecord h
  obtain ⟨htime, rfl⟩ := encodeRawCanRecord_ok h
  have hid := frame.arbitrationId_le
  have hpayload : frame.payloadLength ≤ 8 := frame.payload_length_le
  generalize hts : bigEndian 8 frame.timestampMicroseconds = timestamp at hlength ⊢
  generalize hids : bigEndian 2 frame.arbitrationId = arbitrationId at hlength ⊢
  generalize hdlcs : bigEndian 1 frame.payloadLength = dlc at hlength ⊢
  have hts_length : timestamp.length = 8 := by rw [← hts, length_bigEndian]
  have hids_length : arbitrationId.length = 2 := by rw [← hids, length_bigEndian]
  have hdlcs_length : dlc.length = 1 := by rw [← hdlcs, length_bigEndian]
  have htimestamp : (timestamp ++ arbitrationId ++ dlc ++ ljust 8 frame.payload).take 8 =
      timestamp := by
    rw [List.append_assoc, List.append_assoc, ← hts_length, List.take_left]
  have hdrop8 : (timestamp ++ arbitrationId ++ dlc ++ ljust 8 frame.payload).drop 8 =
      arbitrationId ++ (dlc ++ ljust 8 frame.payload) := by
    rw [List.append_assoc, List.append_assoc, ← hts_length, List.drop_left]
  have hdrop10 : (timestamp ++ arbitrationId ++ dlc ++ ljust 8 frame.payload).drop 10 =
      dlc ++ ljust 8 frame.payload := by
    rw [show 10 = 8 + 2 from rfl, ← List.drop_drop, hdrop8, ← hids_length, List.drop_left]
  have hdrop11 : (timestamp ++ arbitrationId ++ dlc ++ ljust 8 frame.payload).drop 11 =
      ljust 8 frame.payload := by
    rw [show 11 = 10 + 1 from rfl, ← List.drop_drop, hdrop10, ← hdlcs_length, List.drop_left]
  have harbitrationId : ofBigEndian ((arbitrationId ++ (dlc ++ ljust 8 frame.payload)).take 2) =
      frame.arbitrationId := by
    rw [← hids_length, List.take_left, ← hids, ofBigEndian_bigEndian (by omega)]
  have hdlc : ofBigEndian ((dlc ++ ljust 8 frame.payload).take 1) = frame.payloadLength := by
    rw [← hdlcs_length, List.take_left, ← hdlcs, ofBigEndian_bigEndian (by omega)]
  unfold decodeRawCanRecord
  simp only [hlength, ne_eq, not_true_eq_false, ↓reduceIte, htimestamp, hdrop8, hdrop10, hdrop11,
    harbitrationId, hdlc]
  have hstamp : ofBigEndian timestamp = frame.timestampMicroseconds := by
    rw [← hts, ofBigEndian_bigEndian (by omega)]
  rw [dif_neg (by omega), dif_neg (by omega)]
  congr 1
  exact RawCanFrame.ext rfl (take_ljust 8 frame.payload) hstamp

/-! ## Sequences of frames -/

/-- The records of the frames, in order. -/
def Records (frames : List RawCanFrame) (records : List Bytes) : Prop :=
  List.Forall₂ (fun frame record => encodeRawCanRecord frame = .ok record) frames records

/-- Timestamps do not decrease. -/
def InOrder (frames : List RawCanFrame) : Prop :=
  frames.IsChain (fun a b => a.timestampMicroseconds ≤ b.timestampMicroseconds)

theorem InOrder.head_le_last {frames : List RawCanFrame} (h : InOrder frames) {first last : RawCanFrame}
    (hfirst : frames.head? = some first) (hlast : frames.getLast? = some last) :
    first.timestampMicroseconds ≤ last.timestampMicroseconds := by
  cases frames with
  | nil => cases hfirst
  | cons frame rest =>
    cases hfirst
    rw [List.getLast?_cons] at hlast
    cases hrest : rest.getLast? with
    | none =>
      rw [hrest] at hlast
      cases hlast
      exact le_rfl
    | some other =>
      rw [hrest] at hlast
      cases hlast
      have hpairwise := List.isChain_iff_pairwise.1 h
      exact List.rel_of_pairwise_cons hpairwise (List.mem_of_getLast? hrest)

end TunerOs
