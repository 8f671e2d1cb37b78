-- SUMMARY: The numeric encoders shared by the DME and DSC frames, and how a packed 16-bit value reads back.
import TunerOs.Canbus.Frame
import TunerOs.Lib.ByteCodec
import TunerOs.Lib.Quantize
import Mathlib.Data.Rat.Floor

/-!
# Signal encoding

`std::round` and `std::clamp` on exact rationals. The check against non-finite
values cannot fail on a rational.
-/

namespace TunerOs

open ByteCodec Quantize

abbrev Payload : Type := Vector UInt8 kMaximumClassicCanPayloadLength

/-- `encode_scaled_u16`. -/
def encodeScaledU16 (value scale offset : ℚ) : UInt16 :=
  UInt16.ofNat (quantize 65535 ((value - offset) / scale))

/-- `encode_scaled_u8`. -/
def encodeScaledU8 (value scale offset : ℚ) : UInt8 :=
  UInt8.ofNat (quantize 255 ((value - offset) / scale))

/-- `encode_normalized_u8`. -/
def encodeNormalizedU8 (value : ℚ) : UInt8 := encodeScaledU8 value (1 / 255) 0

/-- `pack_u16_little_endian`. -/
def packU16LittleEndian (payload : Payload) (offset : ℕ) (value : UInt16) : Payload :=
  (payload.setIfInBounds offset (value &&& 0xFF).toUInt8).setIfInBounds (offset + 1)
    ((value >>> 8) &&& 0xFF).toUInt8

/-- The two bytes of a packed value, low byte first. -/
def packedBytes (value : UInt16) : Bytes :=
  [(value &&& 0xFF).toUInt8, ((value >>> 8) &&& 0xFF).toUInt8]

theorem toNat_encodeScaledU16 (value scale offset : ℚ) :
    (encodeScaledU16 value scale offset).toNat = level 65535 scale offset value := by
  have hle : quantize 65535 ((value - offset) / scale) ≤ 65535 := quantize_le
  rw [encodeScaledU16, UInt16.toNat_ofNat_of_lt' (by rw [UInt16.size]; omega), level]

theorem toNat_encodeScaledU8 (value scale offset : ℚ) :
    (encodeScaledU8 value scale offset).toNat = level 255 scale offset value := by
  have hle : quantize 255 ((value - offset) / scale) ≤ 255 := quantize_le
  rw [encodeScaledU8, UInt8.toNat_ofNat_of_lt' (by rw [UInt8.size]; omega), level]

theorem ofLittleEndian_packedBytes (value : UInt16) :
    ofLittleEndian (packedBytes value) = value.toNat := by
  have hlt := value.toNat_lt
  have hlow : (value &&& 0xFF).toUInt8.toNat = value.toNat % 256 := by
    rw [UInt16.toNat_toUInt8, UInt16.toNat_and]
    have hmask : value.toNat &&& 255 = value.toNat % 2 ^ 8 := Nat.and_two_pow_sub_one_eq_mod _ 8
    simp only [UInt16.reduceToNat, hmask]
    omega
  have hhigh : ((value >>> 8) &&& 0xFF).toUInt8.toNat = value.toNat / 256 := by
    rw [UInt16.toNat_toUInt8, UInt16.toNat_and, UInt16.toNat_shiftRight]
    have hmask : value.toNat / 2 ^ 8 &&& 255 = value.toNat / 2 ^ 8 % 2 ^ 8 :=
      Nat.and_two_pow_sub_one_eq_mod _ 8
    simp only [UInt16.reduceToNat, Nat.reduceMod, Nat.shiftRight_eq_div_pow, hmask]
    omega
  rw [packedBytes, ofLittleEndian_cons, ofLittleEndian_cons, ofLittleEndian_nil, hlow, hhigh]
  omega

/-! ## Reading fields at byte boundaries -/

section BitField

variable {payload : Bytes} {k : ℕ}

theorem bitField_packed {value : UInt16} (h : (payload.drop k).take 2 = packedBytes value) :
    bitField payload (8 * k) 16 = value.toNat := by
  rw [show 16 = 8 * 2 from rfl, bitField_bytes, h, ofLittleEndian_packedBytes]

theorem bitField_byte {byte : UInt8} (h : (payload.drop k).take 1 = [byte]) :
    bitField payload (8 * k) 8 = byte.toNat := by
  rw [show bitField payload (8 * k) 8 = bitField payload (8 * k) (8 * 1) from rfl, bitField_bytes, h]
  rfl

/-- The lowest bit of a byte. -/
theorem bitField_bit {byte : UInt8} (h : (payload.drop k).take 1 = [byte]) :
    bitField payload (8 * k) 1 = byte.toNat % 2 := by
  have hbyte := bitField_byte h
  rw [bitField] at hbyte
  rw [← hbyte, bitField, Nat.mod_mod_of_dvd _ (by decide : 2 ∣ 2 ^ 8), pow_one]

end BitField

end TunerOs
