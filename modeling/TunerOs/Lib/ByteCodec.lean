-- SUMMARY: Fixed-width byte encodings of naturals, blocks written into byte arrays, and zero-padded fields.
import Mathlib.Data.Nat.ModEq
import Mathlib.Tactic.Ring

/-!
# Byte codecs

Numbers of a fixed width as big-endian bytes, and as the value of a little-endian
byte array read by bit positions. A loop that stores a block of bytes at an offset
replaces exactly that block.
-/

namespace ByteCodec

/-- The low `width` bytes of `n`, most significant first. -/
def bigEndian : ℕ → ℕ → List UInt8
  | 0, _ => []
  | width + 1, n => UInt8.ofNat (n / 256 ^ width) :: bigEndian width n

/-- The number that big-endian bytes spell. -/
def ofBigEndian (bytes : List UInt8) : ℕ :=
  bytes.foldl (fun acc byte => acc * 256 + byte.toNat) 0

@[simp] theorem length_bigEndian (width n : ℕ) : (bigEndian width n).length = width := by
  induction width with
  | zero => rfl
  | succ width ih => simp [bigEndian, ih]

/-- The bytes read after some are worth `acc` weigh it by their number. -/
theorem foldl_bigEndian (bytes : List UInt8) (acc : ℕ) :
    bytes.foldl (fun acc byte => acc * 256 + byte.toNat) acc =
      acc * 256 ^ bytes.length + ofBigEndian bytes := by
  induction bytes generalizing acc with
  | nil => simp [ofBigEndian]
  | cons byte rest ih =>
    simp only [List.foldl_cons, List.length_cons, ofBigEndian]
    rw [ih, ih (0 * 256 + byte.toNat)]
    ring

theorem ofBigEndian_cons (byte : UInt8) (rest : List UInt8) :
    ofBigEndian (byte :: rest) = byte.toNat * 256 ^ rest.length + ofBigEndian rest := by
  rw [ofBigEndian, List.foldl_cons, foldl_bigEndian]
  ring

/-- Big-endian bytes read back as the number, reduced to their width. -/
theorem ofBigEndian_bigEndian_mod (width n : ℕ) :
    ofBigEndian (bigEndian width n) = n % 256 ^ width := by
  induction width with
  | zero => simp [bigEndian, ofBigEndian, Nat.mod_one]
  | succ width ih =>
    have hbyte : (UInt8.ofNat (n / 256 ^ width)).toNat = n / 256 ^ width % 256 := by
      simp
    rw [bigEndian, ofBigEndian_cons, length_bigEndian, ih, hbyte, pow_succ, Nat.mod_mul]
    ring

theorem ofBigEndian_bigEndian {width n : ℕ} (h : n < 256 ^ width) :
    ofBigEndian (bigEndian width n) = n := by
  rw [ofBigEndian_bigEndian_mod, Nat.mod_eq_of_lt h]

theorem getElem?_bigEndian {width n i : ℕ} (hi : i < width) :
    (bigEndian width n)[i]? = some (UInt8.ofNat (n / 256 ^ (width - 1 - i))) := by
  induction width generalizing i with
  | zero => omega
  | succ width ih =>
    cases i with
    | zero => rfl
    | succ i =>
      have hexp : width + 1 - 1 - (i + 1) = width - 1 - i := by omega
      rw [bigEndian, List.getElem?_cons_succ, ih (by omega), hexp]

/-! ## Little-endian bit fields -/

/-- The number whose bytes are given least significant first. -/
def ofLittleEndian (bytes : List UInt8) : ℕ :=
  bytes.foldr (fun byte acc => byte.toNat + 256 * acc) 0

@[simp] theorem ofLittleEndian_nil : ofLittleEndian [] = 0 := rfl

@[simp] theorem ofLittleEndian_cons (byte : UInt8) (rest : List UInt8) :
    ofLittleEndian (byte :: rest) = byte.toNat + 256 * ofLittleEndian rest := rfl

theorem ofLittleEndian_div (bytes : List UInt8) (k : ℕ) :
    ofLittleEndian bytes / 256 ^ k = ofLittleEndian (bytes.drop k) := by
  induction k generalizing bytes with
  | zero => simp
  | succ k ih =>
    cases bytes with
    | nil => simp
    | cons byte rest =>
      have hbyte := byte.toNat_lt
      have hdiv : (byte.toNat + 256 * ofLittleEndian rest) / 256 = ofLittleEndian rest := by omega
      rw [List.drop_succ_cons, ← ih, ofLittleEndian_cons, pow_succ', ← Nat.div_div_eq_div_mul, hdiv]

theorem ofLittleEndian_mod (bytes : List UInt8) (m : ℕ) :
    ofLittleEndian bytes % 256 ^ m = ofLittleEndian (bytes.take m) := by
  induction m generalizing bytes with
  | zero => simp [Nat.mod_one]
  | succ m ih =>
    cases bytes with
    | nil => simp
    | cons byte rest =>
      have hbyte := byte.toNat_lt
      have hmod : (byte.toNat + 256 * ofLittleEndian rest) % 256 = byte.toNat := by omega
      have hdiv : (byte.toNat + 256 * ofLittleEndian rest) / 256 = ofLittleEndian rest := by omega
      rw [List.take_succ_cons, ofLittleEndian_cons, ofLittleEndian_cons, ← ih, pow_succ',
        Nat.mod_mul, hmod, hdiv]

theorem ofLittleEndian_append (front back : List UInt8) :
    ofLittleEndian (front ++ back) =
      ofLittleEndian front + 256 ^ front.length * ofLittleEndian back := by
  induction front with
  | nil => simp
  | cons byte rest ih =>
    rw [List.cons_append, ofLittleEndian_cons, ih, ofLittleEndian_cons, List.length_cons]
    ring

theorem ofLittleEndian_lt (bytes : List UInt8) : ofLittleEndian bytes < 256 ^ bytes.length := by
  induction bytes with
  | nil => simp
  | cons byte rest ih =>
    have hbyte := byte.toNat_lt
    rw [ofLittleEndian_cons, List.length_cons, pow_succ]
    omega

@[simp] theorem ofLittleEndian_zeros (n : ℕ) : ofLittleEndian (List.replicate n 0) = 0 := by
  induction n with
  | zero => rfl
  | succ n ih => rw [List.replicate_succ, ofLittleEndian_cons, ih]; rfl

/-- The field of `size` bits from bit `start` on. -/
def bitField (bytes : List UInt8) (start size : ℕ) : ℕ :=
  ofLittleEndian bytes / 2 ^ start % 2 ^ size

/-- A field of whole bytes at a byte boundary. -/
theorem bitField_bytes (bytes : List UInt8) (k m : ℕ) :
    bitField bytes (8 * k) (8 * m) = ofLittleEndian ((bytes.drop k).take m) := by
  rw [bitField, pow_mul, pow_mul, show (2 : ℕ) ^ 8 = 256 from rfl, ofLittleEndian_div,
    ofLittleEndian_mod]

/-! ## Blocks

A loop `for i in 0..n` that stores `f i` at index `offset + i`. -/

section Blocks

variable {α : Type*}

theorem length_foldl_set (f : ℕ → α) (offset n : ℕ) (bytes : List α) :
    ((List.range n).foldl (fun bytes i => bytes.set (offset + i) (f i)) bytes).length =
      bytes.length := by
  induction n with
  | zero => rfl
  | succ n ih => rw [List.range_succ, List.foldl_append, List.foldl_cons, List.foldl_nil,
      List.length_set, ih]

/-- What is at an index after the loop: the stored value inside the block, the old one
outside. -/
theorem getElem?_foldl_set (f : ℕ → α) (offset n : ℕ) (bytes : List α)
    (hfits : offset + n ≤ bytes.length) (k : ℕ) :
    ((List.range n).foldl (fun bytes i => bytes.set (offset + i) (f i)) bytes)[k]? =
      if offset ≤ k ∧ k < offset + n then some (f (k - offset)) else bytes[k]? := by
  induction n with
  | zero =>
    have hout : ¬ (offset ≤ k ∧ k < offset + 0) := by omega
    rw [if_neg hout]
    rfl
  | succ n ih =>
    rw [List.range_succ, List.foldl_append, List.foldl_cons, List.foldl_nil, List.getElem?_set,
      length_foldl_set, ih (by omega)]
    by_cases hlast : offset + n = k
    · have hlen : offset + n < bytes.length := by omega
      have hin : offset ≤ k ∧ k < offset + (n + 1) := by omega
      have hsub : k - offset = n := by omega
      rw [if_pos hlast, if_pos hlen, if_pos hin, hsub]
    · have hiff : (offset ≤ k ∧ k < offset + n) ↔ (offset ≤ k ∧ k < offset + (n + 1)) := by
        omega
      rw [if_neg hlast, if_congr hiff rfl rfl]

/-- The loop replaces the block between the bytes before it and the bytes after it. -/
theorem foldl_set_eq (f : ℕ → α) (front block back : List α)
    (hblock : ∀ i, i < block.length → block[i]? = some (f i)) (middle : List α)
    (hmiddle : middle.length = block.length) :
    (List.range block.length).foldl (fun bytes i => bytes.set (front.length + i) (f i))
        (front ++ middle ++ back) = front ++ block ++ back := by
  refine List.ext_getElem? (fun k => ?_)
  rw [getElem?_foldl_set f front.length block.length _ (by simp; omega)]
  by_cases hin : front.length ≤ k ∧ k < front.length + block.length
  · rw [if_pos hin, List.append_assoc, List.getElem?_append_right hin.1,
      List.getElem?_append_left (by omega), hblock _ (by omega)]
  · rw [if_neg hin]
    rcases Nat.lt_or_ge k front.length with hlt | hge
    · rw [List.append_assoc, List.append_assoc, List.getElem?_append_left hlt,
        List.getElem?_append_left hlt]
    · have hafter : front.length + block.length ≤ k := by omega
      rw [List.getElem?_append_right (by simp; omega), List.getElem?_append_right (by simp; omega)]
      simp [hmiddle]

end Blocks

/-- A field of fixed width: the bytes, filled up with zeros on the right. -/
def ljust (width : ℕ) (bytes : List UInt8) : List UInt8 :=
  bytes ++ List.replicate (width - bytes.length) 0

theorem length_ljust {width : ℕ} {bytes : List UInt8} (h : bytes.length ≤ width) :
    (ljust width bytes).length = width := by
  simp [ljust]
  omega

@[simp] theorem take_ljust (width : ℕ) (bytes : List UInt8) :
    (ljust width bytes).take bytes.length = bytes := by
  simp [ljust]

end ByteCodec
