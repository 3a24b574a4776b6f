/-
  WallController.Crc16Bits
  ────────────────────────────────
  **THE CRC16-CCITT AS A REGISTER OF BITS.**

  `u16CRC16_CCITT_Update` takes a byte at a time: the byte is added to the high
  half of the register, which is then shifted eight times.  That is the CRC of
  the eight bits of the byte, the most significant first, so what is known of
  the CRC of a message of bits holds of it.

  Main results:
    * `update_toBitVec`: the update over bytes is the update over their bits.
    * `update_burst_ne`: a burst of at most 16 bits changes the CRC.
    * `update_field_eq_zero_iff`: the CRC over a message and its CRC field is
      zero when the field, high byte first, is the CRC of the message.
-/
import WallController.Crc16
import WallController.Lib.Crc

namespace WallController

open WallController.Lib

/-! ## §1. Bits of bytes. -/

/-- The bits of a byte, the most significant first. -/
def byteBits (data : UInt8) : List Bool := List.ofFn fun i : Fin 8 => data.toBitVec.getMsbD i

/-- The bits of a message. -/
def bitsOf (data : List UInt8) : List Bool := data.flatMap byteBits

theorem length_byteBits (data : UInt8) : (byteBits data).length = 8 := List.length_ofFn

theorem getD_byteBits (data : UInt8) (i : Nat) :
    (byteBits data).getD i false = data.toBitVec.getMsbD i := by
  unfold byteBits
  rw [List.getD_eq_getElem?_getD, List.getElem?_ofFn]
  by_cases hi : i < 8
  · rw [dif_pos hi]
    rfl
  · rw [dif_neg hi, BitVec.getMsbD_of_ge _ _ (Nat.not_lt.mp hi)]
    rfl

theorem bitsOf_cons (x : UInt8) (xs : List UInt8) : bitsOf (x :: xs) = byteBits x ++ bitsOf xs :=
  List.flatMap_cons

theorem bitsOf_append (xs ys : List UInt8) : bitsOf (xs ++ ys) = bitsOf xs ++ bitsOf ys :=
  List.flatMap_append

theorem length_bitsOf (data : List UInt8) : (bitsOf data).length = 8 * data.length := by
  induction data with
  | nil => rfl
  | cons x xs ih =>
      rw [bitsOf_cons, List.length_append, length_byteBits, ih, List.length_cons]
      omega

/-- A message with some of its bits flipped: those that are set in `errors`. -/
def flipped (data errors : List UInt8) : List UInt8 := List.zipWith (· ^^^ ·) data errors

theorem length_flipped {data errors : List UInt8} (h : errors.length = data.length) :
    (flipped data errors).length = data.length := by
  unfold flipped
  rw [List.length_zipWith, h, Nat.min_self]

theorem byteBits_xor (x y : UInt8) : byteBits (x ^^^ y) = xorBits (byteBits x) (byteBits y) := by
  apply List.ext_getElem
  · unfold xorBits
    rw [List.length_zipWith, length_byteBits, length_byteBits, length_byteBits]
    rfl
  · intro i _ _
    simp [byteBits, xorBits]

theorem bitsOf_flipped {data errors : List UInt8} (h : errors.length = data.length) :
    bitsOf (flipped data errors) = xorBits (bitsOf data) (bitsOf errors) := by
  induction data generalizing errors with
  | nil => rfl
  | cons x xs ih =>
      cases errors with
      | nil => cases h
      | cons y ys =>
          show bitsOf ((x ^^^ y) :: flipped xs ys) = _
          have hlen : (byteBits x).length = (byteBits y).length := by
            rw [length_byteBits, length_byteBits]
          rw [bitsOf_cons, byteBits_xor, ih (Nat.succ.inj h), bitsOf_cons, bitsOf_cons]
          exact (List.zipWith_append hlen).symm

/-! ## §2. The update over bits. -/

/-- The polynomial, without its leading term. -/
def crc16Poly : BitVec 16 := 0x1021

theorem crc16Poly_odd : crc16Poly.getLsbD 0 = true := rfl

theorem crc16Bit_toBitVec (crc : UInt16) :
    (crc16Bit crc).toBitVec = crcShift crc16Poly crc.toBitVec := by
  have hmask : (0x8000 : UInt16).toBitVec = BitVec.twoPow 16 15 := by decide
  have htop : crc &&& 0x8000 ≠ 0 ↔ crc.toBitVec.msb = true := by
    rw [ne_eq, ← UInt16.toBitVec_inj, UInt16.toBitVec_and, hmask, BitVec.and_twoPow,
      BitVec.msb_eq_getLsbD_last]
    by_cases hbit : crc.toBitVec.getLsbD 15 = true
    · rw [if_pos hbit]
      exact ⟨fun _ => hbit, fun _ => by decide⟩
    · rw [if_neg hbit]
      exact ⟨fun h => absurd rfl h, fun h => absurd h hbit⟩
  unfold crc16Bit crcShift
  by_cases hmsb : crc.toBitVec.msb = true
  · rw [if_pos (htop.mpr hmsb), if_pos hmsb]
    rfl
  · rw [if_neg (mt htop.mp hmsb), if_neg hmsb]
    rfl

theorem repeat_crc16Bit_toBitVec (n : Nat) (crc : UInt16) :
    (Nat.repeat crc16Bit n crc).toBitVec = (crcShift crc16Poly)^[n] crc.toBitVec := by
  induction n with
  | zero => rfl
  | succ n ih =>
      rw [Function.iterate_succ_apply', ← ih]
      exact crc16Bit_toBitVec _

/-- A byte in the high half of the register. -/
theorem topBits_byteBits (data : UInt8) :
    topBits 16 (byteBits data) = (data.toUInt16 <<< 8).toBitVec := by
  have hshift : (data.toUInt16 <<< 8).toBitVec = data.toBitVec.setWidth 16 <<< 8 := rfl
  rw [hshift]
  apply BitVec.eq_of_getMsbD_eq
  intro i hi
  rw [getMsbD_topBits, getD_byteBits, BitVec.getMsbD_shiftLeft, BitVec.getMsbD_setWidth]
  simp [hi]

theorem crc16Byte_toBitVec (crc : UInt16) (data : UInt8) :
    (crc16Byte crc data).toBitVec = crcBits crc16Poly crc.toBitVec (byteBits data) := by
  have hlen : (byteBits data).length ≤ 16 := by rw [length_byteBits]; omega
  unfold crc16Byte
  rw [repeat_crc16Bit_toBitVec, crcBits_eq_iterate _ _ hlen, length_byteBits, topBits_byteBits]
  rfl

/-- **The update over bytes is the update over their bits.** -/
theorem update_toBitVec (crc : UInt16) (data : List UInt8) :
    (u16CRC16CCITTUpdate crc data).toBitVec = crcBits crc16Poly crc.toBitVec (bitsOf data) := by
  induction data generalizing crc with
  | nil => rfl
  | cons x xs ih =>
      show (u16CRC16CCITTUpdate (crc16Byte crc x) xs).toBitVec = _
      rw [ih, crc16Byte_toBitVec, bitsOf_cons, crcBits_append]

/-! ## §3. Bursts. -/

/-- An error pattern for a message: some bits are flipped, and they lie within
16 consecutive ones. -/
def Burst (errors : List UInt8) : Prop := IsBurst 16 (bitsOf errors)

/-- **A burst changes the CRC**, whatever the CRC was before the message. -/
theorem update_burst_ne (crc : UInt16) {data errors : List UInt8}
    (hlen : errors.length = data.length) (h : Burst errors) :
    u16CRC16CCITTUpdate crc (flipped data errors) ≠ u16CRC16CCITTUpdate crc data := by
  have hbits : (bitsOf data).length = (bitsOf errors).length := by
    rw [length_bitsOf, length_bitsOf, hlen]
  rw [ne_eq, ← UInt16.toBitVec_inj, update_toBitVec, update_toBitVec, bitsOf_flipped hlen]
  exact crcBits_xorBits_ne crc16Poly_odd crc.toBitVec hbits h

/-- The bytes of a field, high byte first. -/
theorem topBits_field (field : UInt16) :
    topBits 16 (bitsOf [(field >>> 8).toUInt8, field.toUInt8]) = field.toBitVec := by
  apply BitVec.eq_of_getMsbD_eq
  intro i hi
  have hhigh : (field >>> 8).toUInt8.toBitVec = (field.toBitVec >>> 8).setWidth 8 := rfl
  have hlow : field.toUInt8.toBitVec = field.toBitVec.setWidth 8 := rfl
  rw [getMsbD_topBits, bitsOf_cons, bitsOf_cons, List.getD_eq_getElem?_getD]
  by_cases hbyte : i < 8
  · rw [List.getElem?_append_left (by rw [length_byteBits]; exact hbyte),
      ← List.getD_eq_getElem?_getD, getD_byteBits, hhigh]
    have hlt : i + 8 < 16 := by omega
    simp [hi, hlt, BitVec.getMsbD_setWidth, BitVec.getMsbD_ushiftRight]
  · rw [List.getElem?_append_right (by rw [length_byteBits]; omega), length_byteBits,
      show bitsOf [] = [] from rfl, List.append_nil, ← List.getD_eq_getElem?_getD, getD_byteBits,
      hlow]
    have hsum : i - 8 + 8 = i := by omega
    simp [hi, hsum, BitVec.getMsbD_setWidth]

/-- **A message and its CRC field** have the CRC zero exactly when the field
holds the CRC of the message. -/
theorem update_field_eq_zero_iff (crc field : UInt16) :
    u16CRC16CCITTUpdate crc [(field >>> 8).toUInt8, field.toUInt8] = 0 ↔ field = crc := by
  have hlen : (bitsOf [(field >>> 8).toUInt8, field.toUInt8]).length ≤ 16 := by
    rw [length_bitsOf]
    exact Nat.le_refl 16
  rw [← UInt16.toBitVec_inj, update_toBitVec, crcBits_eq_iterate _ _ hlen, topBits_field]
  constructor
  · intro h
    have hzero := eq_zero_of_iterate_crcShift crc16Poly_odd h
    exact (UInt16.toBitVec_inj.mp (BitVec.xor_eq_zero_iff.mp hzero)).symm
  · intro h
    rw [h, BitVec.xor_self]
    exact Function.iterate_fixed (crcShift_zero crc16Poly) _

end WallController
