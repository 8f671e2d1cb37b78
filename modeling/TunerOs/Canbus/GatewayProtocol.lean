-- SUMMARY: The C++ side of the gateway protocol: the connection header and the 19-byte record of one frame.
import TunerOs.Canbus.Frame
import TunerOs.Lib.ByteCodec

/-!
# Gateway protocol, C++ side

`serialize_gateway_record` fills a zeroed record by index: the timestamp with a
shift loop, then the ID, the length and the payload. The record is shown to be
the four fields in network byte order, one after the other.
-/

namespace TunerOs

open ByteCodec

def kGatewayMagic : Bytes := [0x54, 0x4E, 0x43, 0x52]
def kGatewayProtocolVersion : UInt8 := 1
def kGatewayHeaderSize : ℕ := 8
def kGatewayRecordSize : ℕ := 19

/-- `make_gateway_header`. -/
def makeGatewayHeader : Bytes := kGatewayMagic ++ [kGatewayProtocolVersion, 0, 0, 0]

/-- One byte of the shift loop over the timestamp. -/
def timestampByte (timestamp : UInt64) (index : ℕ) : UInt8 :=
  (timestamp >>> UInt64.ofNat ((8 - 1 - index) * 8)).toUInt8

/-- `serialize_gateway_record`. -/
def serializeGatewayRecord (frame : CanFrame) : Except CppException Bytes :=
  if ¬ frame.isValid then .error ⟨"cannot serialize an invalid Classic CAN frame"⟩
  else
    let record : Bytes := List.replicate kGatewayRecordSize 0
    let record := (List.range 8).foldl (fun record index =>
      record.set index (timestampByte frame.timestampMicroseconds index)) record
    let record := record.set 8 (frame.arbitrationId >>> 8).toUInt8
    let record := record.set 9 frame.arbitrationId.toUInt8
    let record := record.set 10 frame.payloadLength
    .ok ((List.range frame.payloadLength.toNat).foldl (fun record index =>
      record.set (11 + index) (frame.payload.toList.getD index 0)) record)

/-! ## The fields of a record -/

/-- Shifting a timestamp and truncating it selects one of its bytes. -/
theorem timestampByte_eq (timestamp : UInt64) {index : ℕ} (hindex : index < 8) :
    timestampByte timestamp index = UInt8.ofNat (timestamp.toNat / 256 ^ (8 - 1 - index)) := by
  have hshift : (8 - 1 - index) * 8 < 64 := by omega
  have hpow : (256 : ℕ) ^ (8 - 1 - index) = 2 ^ ((8 - 1 - index) * 8) := by
    rw [show (256 : ℕ) = 2 ^ 8 from rfl, ← pow_mul, Nat.mul_comm]
  apply UInt8.toNat_inj.1
  rw [timestampByte, UInt64.toNat_toUInt8, UInt64.toNat_shiftRight, hpow]
  rw [UInt64.toNat_ofNat_of_lt' (by simp [UInt64.size]; omega), Nat.mod_eq_of_lt hshift,
    Nat.shiftRight_eq_div_pow]
  simp

theorem arbitrationIdBytes_eq (arbitrationId : UInt16) :
    [(arbitrationId >>> 8).toUInt8, arbitrationId.toUInt8] = bigEndian 2 arbitrationId.toNat := by
  have hhigh : (arbitrationId >>> 8).toUInt8 = UInt8.ofNat (arbitrationId.toNat / 256 ^ 1) := by
    apply UInt8.toNat_inj.1
    rw [UInt16.toNat_toUInt8, UInt16.toNat_shiftRight]
    simp [Nat.shiftRight_eq_div_pow]
  have hlow : arbitrationId.toUInt8 = UInt8.ofNat (arbitrationId.toNat / 256 ^ 0) := by
    apply UInt8.toNat_inj.1
    simp
  rw [hhigh, hlow]
  rfl

/-- The record of a valid frame: timestamp and ID in network byte order, the payload length,
and the payload filled up with zeros. -/
theorem serializeGatewayRecord_ok {frame : CanFrame} (h : frame.isValid) :
    serializeGatewayRecord frame =
      .ok (bigEndian 8 frame.timestampMicroseconds.toNat ++
        bigEndian 2 frame.arbitrationId.toNat ++ [frame.payloadLength] ++ ljust 8 frame.data) := by
  have hlength : frame.payloadLength.toNat ≤ 8 := h.2
  have htimestamp : (List.range 8).foldl (fun record index =>
      record.set index (timestampByte frame.timestampMicroseconds index))
        (List.replicate kGatewayRecordSize 0) =
      bigEndian 8 frame.timestampMicroseconds.toNat ++ List.replicate 11 0 := by
    have hloop := foldl_set_eq (timestampByte frame.timestampMicroseconds) []
      (bigEndian 8 frame.timestampMicroseconds.toNat) (List.replicate 11 0)
      (fun i hi => by
        rw [length_bigEndian] at hi
        rw [getElem?_bigEndian hi, timestampByte_eq _ hi])
      (List.replicate 8 0) (by simp)
    simpa [kGatewayRecordSize, ← List.replicate_add] using hloop
  have hheader : (((bigEndian 8 frame.timestampMicroseconds.toNat ++
      List.replicate 11 0).set 8 (frame.arbitrationId >>> 8).toUInt8).set 9
        frame.arbitrationId.toUInt8).set 10 frame.payloadLength =
      bigEndian 8 frame.timestampMicroseconds.toNat ++
        bigEndian 2 frame.arbitrationId.toNat ++ [frame.payloadLength] ++ List.replicate 8 0 := by
    rw [← arbitrationIdBytes_eq,
      show List.replicate 11 (0 : UInt8) = 0 :: 0 :: 0 :: List.replicate 8 0 from rfl]
    simp
  have hpayload := foldl_set_eq (fun index => frame.payload.toList.getD index 0)
    (bigEndian 8 frame.timestampMicroseconds.toNat ++ bigEndian 2 frame.arbitrationId.toNat ++
      [frame.payloadLength]) frame.data (List.replicate (8 - frame.payloadLength.toNat) 0)
    (fun i hi => by
      rw [CanFrame.length_data h] at hi
      have hi8 : i < frame.payload.toList.length := by
        rw [Vector.length_toList]
        exact lt_of_lt_of_le hi hlength
      rw [CanFrame.data, List.getElem?_take_of_lt hi, List.getElem?_eq_getElem hi8,
        List.getD_eq_getElem?_getD, List.getElem?_eq_getElem hi8, Option.getD_some])
    (List.replicate frame.payloadLength.toNat 0) (by rw [CanFrame.length_data h]; simp)
  have hzeros : List.replicate frame.payloadLength.toNat (0 : UInt8) ++
      List.replicate (8 - frame.payloadLength.toNat) 0 = List.replicate 8 0 := by
    rw [← List.replicate_add]
    congr 1
    omega
  unfold serializeGatewayRecord
  simp only [h, not_true_eq_false, ↓reduceIte, htimestamp, hheader]
  rw [CanFrame.length_data h, List.append_assoc _ (List.replicate _ 0), hzeros] at hpayload
  simp only [List.length_append, length_bigEndian, List.length_singleton] at hpayload
  rw [hpayload, List.append_assoc _ frame.data, ljust, CanFrame.length_data h]

end TunerOs
