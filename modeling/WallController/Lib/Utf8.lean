/-
  WallController.Lib.Utf8
  ────────────────────────────────
  **THE BYTES OF A STRING.**

  A string is determined by its UTF-8 bytes, and it contains NUL where its
  bytes contain zero: so a string without NUL is a C string of the same
  bytes.
-/
import Mathlib.Data.List.TakeWhile

namespace WallController.Lib

/-- The UTF-8 encoding. -/
def utf8Bytes (s : String) : List UInt8 := s.toByteArray.data.toList

/-- The UTF-8 decoding of bytes that are valid. -/
def utf8Decode (bs : List UInt8) : Option String := String.fromUTF8? ⟨bs.toArray⟩

theorem utf8Bytes_inj {s t : String} (h : utf8Bytes s = utf8Bytes t) : s = t :=
  String.toByteArray_inj.mp (ByteArray.ext (Array.toList_inj.mp h))

theorem utf8Bytes_eq_flatMap (s : String) :
    utf8Bytes s = s.toList.flatMap String.utf8EncodeChar := by
  unfold utf8Bytes
  rw [← String.utf8Encode_toList]
  unfold List.utf8Encode
  rw [List.toList_data_toByteArray]

/-- What is decoded is the encoding of the result. -/
theorem utf8Bytes_of_decode {bs : List UInt8} {s : String} (h : utf8Decode bs = some s) :
    utf8Bytes s = bs := by
  unfold utf8Decode String.fromUTF8? at h
  split at h
  · cases h
    rfl
  · cases h

theorem utf8Decode_utf8Bytes (s : String) : utf8Decode (utf8Bytes s) = some s := by
  have hbytes : (⟨(utf8Bytes s).toArray⟩ : ByteArray) = s.toByteArray := by
    simp [utf8Bytes]
  unfold utf8Decode String.fromUTF8?
  rw [dif_pos (by rw [hbytes]; exact s.isValidUTF8)]
  exact congrArg some (String.toByteArray_inj.mp hbytes)

theorem ofNat_ne_zero {n : Nat} (hpos : 0 < n) (hlt : n < 256) : UInt8.ofNat n ≠ 0 := by
  intro h
  have := congrArg UInt8.toNat h
  rw [UInt8.toNat_ofNat'] at this
  simp only [UInt8.toNat_zero] at this
  omega

/-- Only NUL is encoded with a zero byte. -/
theorem eq_nul_of_zero_mem {c : Char} (h : 0 ∈ String.utf8EncodeChar c) : c = '\x00' := by
  unfold String.utf8EncodeChar at h
  simp only [] at h
  split at h
  · next hv =>
    by_contra hc
    have hne : c.val.toNat ≠ 0 := fun h0 => hc (Char.ext (UInt32.toNat_inj.mp h0))
    exact ofNat_ne_zero (by omega) (by omega) (List.mem_singleton.mp h).symm
  · exfalso
    split at h
    · simp only [List.mem_cons, List.not_mem_nil, or_false] at h
      rcases h with h | h <;> exact ofNat_ne_zero (by omega) (by omega) h.symm
    split at h
    · simp only [List.mem_cons, List.not_mem_nil, or_false] at h
      rcases h with h | h | h <;> exact ofNat_ne_zero (by omega) (by omega) h.symm
    · simp only [List.mem_cons, List.not_mem_nil, or_false] at h
      rcases h with h | h | h | h <;> exact ofNat_ne_zero (by omega) (by omega) h.symm

theorem zero_mem_utf8Bytes {s : String} : 0 ∈ utf8Bytes s ↔ '\x00' ∈ s.toList := by
  rw [utf8Bytes_eq_flatMap, List.mem_flatMap]
  constructor
  · rintro ⟨c, hc, h⟩
    rwa [eq_nul_of_zero_mem h] at hc
  · intro h
    exact ⟨'\x00', h, by decide⟩

/-- The C string of the bytes of a string without NUL. -/
theorem takeWhile_utf8Bytes {s : String} (h : '\x00' ∉ s.toList) :
    (utf8Bytes s).takeWhile (· ≠ 0) = utf8Bytes s := by
  rw [List.takeWhile_eq_self_iff]
  intro b hb
  have : b ≠ 0 := by
    rintro rfl
    exact h (zero_mem_utf8Bytes.mp hb)
  simpa using this

end WallController.Lib
