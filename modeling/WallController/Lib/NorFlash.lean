/-
  WallController.Lib.NorFlash
  ────────────────────────────────
  **A NOR FLASH OVER A BYTE MEMORY.**

  A program operation can only clear bits, and its address counter wraps around
  at the end of the page.  An erase sets a whole sector to `0xFF`.  The two
  questions the library answers are when such operations are plain range
  operations, and how those compose: a program that fits into its page is an
  AND over a range, adjacent ANDs are one AND, and an AND over erased bytes is
  a write.

  Main results:
    * `program_eq`: a program that does not wrap.
    * `andWrite_append`, `fill_add`: adjacent ranges.
    * `andWrite_erased`: over erased bytes.
-/
import WallController.Lib.Memory

namespace WallController.Lib

namespace Mem

/-- The address after `a` in its page. -/
def nextInPage (page a : Nat) : Nat := page * (a / page) + (a + 1) % page

/-- Clear the bits of byte `a` that are clear in `v`. -/
def clearBits (m : Mem) (a : Nat) (v : UInt8) : Mem := fun x =>
  if x = a then m x &&& v else m x

/-- Program `bs` from address `a` on, with the address counter wrapping around
inside the page. -/
def program (page : Nat) (m : Mem) (a : Nat) : List UInt8 → Mem
  | [] => m
  | v :: bs => (m.clearBits a v).program page (nextInPage page a) bs

/-- Erase the sector of address `a`. -/
def eraseSector (size : Nat) (m : Mem) (a : Nat) : Mem := fun x =>
  if x / size = a / size then 0xFF else m x

/-- The AND of the range from `a` on with `bs`. -/
def andWrite (m : Mem) (a : Nat) (bs : List UInt8) : Mem := fun x =>
  if a ≤ x ∧ x < a + bs.length then m x &&& bs.getD (x - a) 0 else m x

/-- The `n` bytes from `a` on set to `v`. -/
def fill (m : Mem) (a n : Nat) (v : UInt8) : Mem := fun x =>
  if a ≤ x ∧ x < a + n then v else m x

/-- The `n` bytes from `a` on are erased. -/
def Erased (m : Mem) (a n : Nat) : Prop := ∀ x, a ≤ x → x < a + n → m x = 0xFF

variable {m : Mem} {page a n k x : Nat} {v : UInt8} {bs bs' : List UInt8}

@[simp] theorem andWrite_nil : m.andWrite a [] = m := by
  funext x
  unfold andWrite
  rw [if_neg (by simp)]

@[simp] theorem fill_zero : m.fill a 0 v = m := by
  funext x
  unfold fill
  rw [if_neg (by omega)]

/-! ## Adjacent ranges. -/

/-- The AND of two adjacent ranges is one AND. -/
theorem andWrite_append :
    (m.andWrite a bs).andWrite (a + bs.length) bs' = m.andWrite a (bs ++ bs') := by
  funext x
  unfold andWrite
  rw [List.length_append]
  by_cases hfirst : a ≤ x ∧ x < a + bs.length
  · have hin : a ≤ x ∧ x < a + (bs.length + bs'.length) := by omega
    rw [if_neg (by omega), if_pos hfirst, if_pos hin, List.getD_append _ _ _ _ (by omega)]
  · rw [if_neg hfirst]
    by_cases hsecond : a + bs.length ≤ x ∧ x < a + bs.length + bs'.length
    · have hin : a ≤ x ∧ x < a + (bs.length + bs'.length) := by omega
      rw [if_pos hsecond, if_pos hin, List.getD_append_right _ _ _ _ (by omega), Nat.sub_sub]
    · rw [if_neg hsecond, if_neg (by omega)]

/-- Two adjacent ranges that are set to one value. -/
theorem fill_add : (m.fill a n v).fill (a + n) k v = m.fill a (n + k) v := by
  funext x
  unfold fill
  by_cases hsecond : a + n ≤ x ∧ x < a + n + k
  · have hin : a ≤ x ∧ x < a + (n + k) := by omega
    rw [if_pos hsecond, if_pos hin]
  · rw [if_neg hsecond]
    by_cases hfirst : a ≤ x ∧ x < a + n
    · have hin : a ≤ x ∧ x < a + (n + k) := by omega
      rw [if_pos hfirst, if_pos hin]
    · rw [if_neg hfirst, if_neg (by omega)]

/-! ## Operations that are range operations. -/

theorem clearBits_eq : m.clearBits a v = m.andWrite a [v] := by
  funext x
  unfold clearBits andWrite
  by_cases h : x = a
  · subst h
    rw [if_pos rfl, if_pos (by simp), Nat.sub_self]
    rfl
  · have hout : ¬ (a ≤ x ∧ x < a + [v].length) := by
      rw [List.length_singleton]
      omega
    rw [if_neg h, if_neg hout]

theorem nextInPage_eq (h : a % page + 1 < page) : nextInPage page a = a + 1 := by
  unfold nextInPage
  have hsplit := Nat.div_add_mod a page
  have hnext : (a + 1) % page = a % page + 1 := by
    rw [Nat.add_mod, Nat.mod_eq_of_lt (show 1 < page by omega), Nat.mod_eq_of_lt h]
  rw [hnext]
  omega

/-- **A program that fits into its page** is an AND over a range. -/
theorem program_eq (h : a % page + bs.length ≤ page) : m.program page a bs = m.andWrite a bs := by
  induction bs generalizing m a with
  | nil => exact andWrite_nil.symm
  | cons v bs ih =>
      rw [List.length_cons] at h
      unfold program
      rw [clearBits_eq]
      by_cases hlast : a % page + 1 < page
      · have hnext := nextInPage_eq hlast
        have hmod : (a + 1) % page = a % page + 1 := by
          rw [Nat.add_mod, Nat.mod_eq_of_lt (show 1 < page by omega), Nat.mod_eq_of_lt hlast]
        rw [hnext, ih (by omega)]
        exact andWrite_append
      · -- the byte is the last one of the page
        have hnil : bs = [] := List.eq_nil_of_length_eq_zero (by omega)
        subst hnil
        rfl

/-- Over erased bytes the AND is a write. -/
theorem andWrite_erased (h : m.Erased a bs.length) : m.andWrite a bs = m.write a bs := by
  funext x
  unfold andWrite write
  by_cases hin : a ≤ x ∧ x < a + bs.length
  · have hff : ∀ b : UInt8, 0xFF &&& b = b := by
      intro b
      exact UInt8.and_comm .. |>.trans (UInt8.and_neg_one)
    rw [if_pos hin, if_pos hin, h x hin.1 hin.2, hff]
  · rw [if_neg hin, if_neg hin]

/-- The sector of an aligned address. -/
theorem eraseSector_eq (hpos : 0 < n) (h : n ∣ a) : m.eraseSector n a = m.fill a n 0xFF := by
  funext x
  unfold eraseSector fill
  obtain ⟨q, rfl⟩ := h
  have hiff : x / n = n * q / n ↔ n * q ≤ x ∧ x < n * q + n := by
    rw [Nat.mul_div_cancel_left q hpos, Nat.div_eq_iff hpos]
    have hcomm := Nat.mul_comm q n
    omega
  simp only [hiff]

end Mem

end WallController.Lib
