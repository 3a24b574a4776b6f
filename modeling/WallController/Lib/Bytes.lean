/-
  WallController.Lib.Bytes
  ────────────────────────────────
  **PACKED RECORDS.**

  Two things that every packed byte record consists of:

      putLE / getLE    little-endian words of a fixed width
      fieldAt          the array that starts at a fixed offset

  A word that fits its width is read back from its bytes, and the bytes of a
  word are determined by its value.  A field of a concatenation is a field of
  one of its parts.
-/
import Mathlib.Data.List.Basic
import Mathlib.Data.Nat.Basic
import Mathlib.Tactic.Ring

namespace WallController.Lib

/-! ## §1. Little-endian words. -/

/-- The value of the bytes, the least significant one first. -/
def getLE : List UInt8 → Nat
  | [] => 0
  | b :: bs => b.toNat + 256 * getLE bs

/-- The `width` low bytes of a value, the least significant one first. -/
def putLE : Nat → Nat → List UInt8
  | 0, _ => []
  | width + 1, n => UInt8.ofNat n :: putLE width (n / 256)

@[simp] theorem length_putLE (width n : Nat) : (putLE width n).length = width := by
  induction width generalizing n with
  | zero => rfl
  | succ width ih => simp [putLE, ih]

theorem getLE_lt (bs : List UInt8) : getLE bs < 256 ^ bs.length := by
  induction bs with
  | nil => simp [getLE]
  | cons b bs ih =>
    have hb : b.toNat < 256 := b.toNat_lt
    rw [List.length_cons, pow_succ]
    simp only [getLE]
    omega

/-- A value that fits is read back. -/
theorem getLE_putLE {width n : Nat} (h : n < 256 ^ width) : getLE (putLE width n) = n := by
  induction width generalizing n with
  | zero =>
    have : n = 0 := by simpa using h
    simp [putLE, getLE, this]
  | succ width ih =>
    have hq : n / 256 < 256 ^ width := by
      rw [pow_succ] at h
      exact Nat.div_lt_of_lt_mul (by omega)
    simp only [putLE, getLE, ih hq, UInt8.toNat_ofNat']
    omega

/-- Bytes are those of their value. -/
theorem putLE_getLE (bs : List UInt8) : putLE bs.length (getLE bs) = bs := by
  induction bs with
  | nil => rfl
  | cons b bs ih =>
    have hb : b.toNat < 256 := b.toNat_lt
    have hlow : UInt8.ofNat (b.toNat + 256 * getLE bs) = b := by
      apply UInt8.toNat_inj.mp
      rw [UInt8.toNat_ofNat']
      omega
    have hhigh : (b.toNat + 256 * getLE bs) / 256 = getLE bs := by omega
    simp only [List.length_cons, putLE, getLE, hlow, hhigh, ih]

/-! ## §2. Fields. -/

variable {α : Type*}

/-- The array of `len` elements at the offset `off`. -/
def fieldAt (off len : Nat) (xs : List α) (h : off + len ≤ xs.length) : Vector α len :=
  ⟨((xs.drop off).take len).toArray, by simp; omega⟩

@[simp] theorem toList_fieldAt {off len : Nat} {xs : List α} (h : off + len ≤ xs.length) :
    (fieldAt off len xs h).toList = (xs.drop off).take len := by
  simp [fieldAt]

/-- A field of the second part. -/
theorem fieldAt_append_right {off len : Nat} {xs ys : List α}
    (h : off + len ≤ (xs ++ ys).length) (hoff : xs.length ≤ off) :
    fieldAt off len (xs ++ ys) h
      = fieldAt (off - xs.length) len ys (by rw [List.length_append] at h; omega) := by
  apply Vector.toList_inj.mp
  simp [List.drop_append, List.drop_eq_nil_of_le hoff]

theorem fieldAt_cons {off len : Nat} {x : α} {xs : List α} (h : off + len ≤ (x :: xs).length)
    (hoff : 0 < off) :
    fieldAt off len (x :: xs) h
      = fieldAt (off - 1) len xs (by rw [List.length_cons] at h; omega) :=
  show fieldAt off len ([x] ++ xs) h = _ from fieldAt_append_right h hoff

/-- The field that is everything. -/
theorem fieldAt_toList {len : Nat} {v : Vector α len} (h : 0 + len ≤ v.toList.length) :
    fieldAt 0 len v.toList h = v := by
  apply Vector.toList_inj.mp
  rw [toList_fieldAt, List.drop_zero]
  exact List.take_of_length_le (by simp)

/-- The field that is the first part. -/
theorem fieldAt_append_left {len : Nat} {v : Vector α len} {ys : List α}
    (h : 0 + len ≤ (v.toList ++ ys).length) : fieldAt 0 len (v.toList ++ ys) h = v := by
  apply Vector.toList_inj.mp
  simp

/-- A field and what follows it. -/
theorem fieldAt_append_drop {off len : Nat} {xs : List α} (h : off + len ≤ xs.length) :
    (fieldAt off len xs h).toList ++ xs.drop (off + len) = xs.drop off := by
  rw [toList_fieldAt, ← List.drop_drop]
  exact List.take_append_drop len (xs.drop off)

/-- One element and what follows it. -/
theorem getElem_cons_drop {off : Nat} {xs : List α} (h : off < xs.length) :
    xs[off] :: xs.drop (off + 1) = xs.drop off :=
  (List.drop_eq_getElem_cons h).symm

end WallController.Lib
