/-
  WallController.Lib.Crc
  ────────────────────────────────
  **CYCLIC REDUNDANCY CHECKS, BIT BY BIT.**

  The register of a CRC of width `w`, without reflection: a message bit is added
  to the top bit, then the register is shifted left, and reduced by the
  polynomial when the top bit was set.  `poly` is the polynomial without its
  leading term; everything here holds of any `poly`, except that a shift loses
  nothing only when its constant term is one.

  Main results:
    * `crcBits_xor`: the register is linear in its start value and the message.
    * `crcBits_eq_iterate`: a message of at most `w` bits is added to the top of
      the register, which is then shifted as often as the message has bits.
    * `crcBits_burst_ne`: a burst of at most `w` bits changes the register, and
      what follows it does not undo this.
-/
import Mathlib.Data.List.Basic
import Mathlib.Logic.Function.Iterate

namespace WallController.Lib

variable {w : Nat}

/-! ## §1. The register. -/

/-- Shift the register left, and reduce it. -/
def crcShift (poly c : BitVec w) : BitVec w :=
  if c.msb then (c <<< 1) ^^^ poly else c <<< 1

/-- The register with a message bit added to its top bit. -/
def crcAdd (c : BitVec w) (bit : Bool) : BitVec w := if bit then c ^^^ BitVec.intMin w else c

/-- The register after one more message bit. -/
def crcFeed (poly c : BitVec w) (bit : Bool) : BitVec w := crcShift poly (crcAdd c bit)

/-- The register after a message. -/
def crcBits (poly c : BitVec w) (bits : List Bool) : BitVec w := bits.foldl (crcFeed poly) c

@[simp] theorem crcBits_nil (poly c : BitVec w) : crcBits poly c [] = c := rfl

@[simp] theorem crcBits_cons (poly c : BitVec w) (bit : Bool) (bits : List Bool) :
    crcBits poly c (bit :: bits) = crcBits poly (crcFeed poly c bit) bits := rfl

theorem crcBits_append (poly c : BitVec w) (xs ys : List Bool) :
    crcBits poly c (xs ++ ys) = crcBits poly (crcBits poly c xs) ys := List.foldl_append

/-- Two messages of the same length, bit by bit. -/
def xorBits (xs ys : List Bool) : List Bool := List.zipWith xor xs ys

/-! ## §2. Linearity. -/

/-- Four terms of a sum, the middle ones exchanged. -/
theorem xor_xor_xor_comm (a b c d : BitVec w) : a ^^^ b ^^^ (c ^^^ d) = a ^^^ c ^^^ (b ^^^ d) := by
  ac_rfl

theorem crcShift_xor (poly a b : BitVec w) :
    crcShift poly (a ^^^ b) = crcShift poly a ^^^ crcShift poly b := by
  have hshift : (a ^^^ b) <<< 1 = (a <<< 1) ^^^ (b <<< 1) := BitVec.shiftLeft_xor_distrib a b 1
  unfold crcShift
  rw [BitVec.msb_xor, hshift]
  cases a.msb with
  | false =>
      cases b.msb with
      | false => rfl
      | true => exact BitVec.xor_assoc _ _ _
  | true =>
      cases b.msb with
      | false =>
          show (a <<< 1) ^^^ (b <<< 1) ^^^ poly = (a <<< 1) ^^^ poly ^^^ (b <<< 1)
          ac_rfl
      | true =>
          -- the polynomial is added twice
          show (a <<< 1) ^^^ (b <<< 1) = (a <<< 1) ^^^ poly ^^^ ((b <<< 1) ^^^ poly)
          rw [xor_xor_xor_comm, BitVec.xor_self, BitVec.xor_zero]

theorem crcAdd_xor (a b : BitVec w) (x y : Bool) :
    crcAdd (a ^^^ b) (xor x y) = crcAdd a x ^^^ crcAdd b y := by
  unfold crcAdd
  cases x with
  | false =>
      cases y with
      | false => rfl
      | true => exact BitVec.xor_assoc _ _ _
  | true =>
      cases y with
      | false =>
          show a ^^^ b ^^^ BitVec.intMin w = a ^^^ BitVec.intMin w ^^^ b
          ac_rfl
      | true =>
          show a ^^^ b = a ^^^ BitVec.intMin w ^^^ (b ^^^ BitVec.intMin w)
          rw [xor_xor_xor_comm, BitVec.xor_self, BitVec.xor_zero]

/-- A bit added to either of two registers. -/
theorem xor_crcAdd (a b : BitVec w) (bit : Bool) : a ^^^ crcAdd b bit = crcAdd a bit ^^^ b := by
  unfold crcAdd
  cases bit with
  | false => rfl
  | true =>
      show a ^^^ (b ^^^ BitVec.intMin w) = a ^^^ BitVec.intMin w ^^^ b
      ac_rfl

/-- **The register is linear** in its start value and the message. -/
theorem crcBits_xor (poly a b : BitVec w) {xs ys : List Bool} (h : xs.length = ys.length) :
    crcBits poly (a ^^^ b) (xorBits xs ys) = crcBits poly a xs ^^^ crcBits poly b ys := by
  induction xs generalizing ys a b with
  | nil =>
      have hys : ys = [] := List.length_eq_zero_iff.mp h.symm
      subst hys
      rfl
  | cons x xs ih =>
      cases ys with
      | nil => cases h
      | cons y ys =>
          show crcBits poly (crcFeed poly (a ^^^ b) (xor x y)) (xorBits xs ys) = _
          have hfeed : crcFeed poly (a ^^^ b) (xor x y) = crcFeed poly a x ^^^ crcFeed poly b y := by
            unfold crcFeed
            rw [crcAdd_xor, crcShift_xor]
          rw [hfeed]
          exact ih _ _ (Nat.succ.inj h)

/-! ## §3. Shifts. -/

theorem crcShift_zero (poly : BitVec w) : crcShift poly 0#w = 0#w := by
  unfold crcShift
  rw [BitVec.msb_zero]
  exact BitVec.zero_shiftLeft 1

/-- A shift loses nothing when the polynomial has a constant term. -/
theorem eq_zero_of_crcShift {poly c : BitVec w} (hodd : poly.getLsbD 0 = true)
    (h : crcShift poly c = 0#w) : c = 0#w := by
  unfold crcShift at h
  cases hmsb : c.msb with
  | true =>
      rw [hmsb, if_pos rfl] at h
      have hbit := congrArg (BitVec.getLsbD · 0) h
      simp [hodd] at hbit
  | false =>
      rw [hmsb, if_neg Bool.false_ne_true] at h
      apply BitVec.eq_of_getMsbD_eq
      intro i hi
      rw [BitVec.getMsbD_zero]
      cases i with
      | zero => rw [← BitVec.msb_eq_getMsbD_zero, hmsb]
      | succ i =>
          have hbit := congrArg (BitVec.getMsbD · i) h
          rw [BitVec.getMsbD_shiftLeft, BitVec.getMsbD_zero] at hbit
          exact hbit

theorem iterate_crcShift_xor (poly a b : BitVec w) (n : Nat) :
    (crcShift poly)^[n] (a ^^^ b) = (crcShift poly)^[n] a ^^^ (crcShift poly)^[n] b := by
  induction n generalizing a b with
  | zero => rfl
  | succ n ih =>
      rw [Function.iterate_succ_apply, Function.iterate_succ_apply, Function.iterate_succ_apply,
        crcShift_xor, ih]

theorem eq_zero_of_iterate_crcShift {poly c : BitVec w} (hodd : poly.getLsbD 0 = true) {n : Nat}
    (h : (crcShift poly)^[n] c = 0#w) : c = 0#w := by
  induction n generalizing c with
  | zero => exact h
  | succ n ih =>
      rw [Function.iterate_succ_apply] at h
      exact eq_zero_of_crcShift hodd (ih h)

/-- Different registers stay different. -/
theorem iterate_crcShift_injective {poly : BitVec w} (hodd : poly.getLsbD 0 = true) (n : Nat) :
    Function.Injective (crcShift poly)^[n] := by
  intro a b h
  have hzero : (crcShift poly)^[n] (a ^^^ b) = 0#w := by
    rw [iterate_crcShift_xor, h, BitVec.xor_self]
  exact BitVec.xor_eq_zero_iff.mp (eq_zero_of_iterate_crcShift hodd hzero)

/-- Zero bits only shift. -/
theorem crcBits_replicate_false (poly c : BitVec w) (n : Nat) :
    crcBits poly c (List.replicate n false) = (crcShift poly)^[n] c := by
  induction n generalizing c with
  | zero => rfl
  | succ n ih =>
      rw [Function.iterate_succ_apply, List.replicate_succ, crcBits_cons, ih]
      rfl

theorem crcBits_zero_replicate_false (poly : BitVec w) (n : Nat) :
    crcBits poly 0#w (List.replicate n false) = 0#w := by
  rw [crcBits_replicate_false]
  exact Function.iterate_fixed (crcShift_zero poly) n

/-! ## §4. A message in the register. -/

/-- The bits at the top of a register, the first one highest. -/
def topBits (w : Nat) : List Bool → BitVec w
  | [] => 0#w
  | bit :: bits => crcAdd (topBits w bits >>> 1) bit

theorem getMsbD_intMin_eq (w i : Nat) :
    (BitVec.intMin w).getMsbD i = (decide (0 < w) && decide (i = 0)) := by
  rw [BitVec.getMsbD_intMin]

theorem getMsbD_crcAdd (c : BitVec w) (bit : Bool) (i : Nat) :
    (crcAdd c bit).getMsbD i
      = xor (c.getMsbD i) (bit && (decide (0 < w) && decide (i = 0))) := by
  unfold crcAdd
  cases bit with
  | false => simp
  | true =>
      rw [if_pos rfl, BitVec.getMsbD_xor, getMsbD_intMin_eq]
      simp

theorem getMsbD_topBits (bits : List Bool) (i : Nat) :
    (topBits w bits).getMsbD i = (decide (i < w) && bits.getD i false) := by
  induction bits generalizing i with
  | nil => simp [topBits]
  | cons bit bits ih =>
      rw [topBits, getMsbD_crcAdd, BitVec.getMsbD_ushiftRight]
      cases i with
      | zero => cases bit <;> simp
      | succ i =>
          rw [Nat.add_sub_cancel, ih]
          by_cases hlt : i + 1 < w
          · have hlt' : i < w := by omega
            simp [hlt, hlt']
          · simp [hlt]

/-- No bit is lost when they all fit. -/
theorem eq_false_of_topBits {bits : List Bool} (hlen : bits.length ≤ w) (h : topBits w bits = 0#w) :
    ∀ bit ∈ bits, bit = false := by
  intro bit hmem
  obtain ⟨i, hi, rfl⟩ := List.mem_iff_getElem.mp hmem
  have hbit := congrArg (BitVec.getMsbD · i) h
  simp only [getMsbD_topBits] at hbit
  have hlt : i < w := by omega
  simpa [hlt, hi] using hbit

/-- A shift right that loses nothing is undone by the shift of the register. -/
theorem crcShift_ushiftRight (poly : BitVec w) {c : BitVec w}
    (h : c.getMsbD (w - 1) = false) : crcShift poly (c >>> 1) = c := by
  have hmsb : (c >>> 1).msb = false := by
    rw [BitVec.msb_eq_getMsbD_zero, BitVec.getMsbD_ushiftRight]
    simp
  unfold crcShift
  rw [hmsb, if_neg Bool.false_ne_true]
  apply BitVec.eq_of_getMsbD_eq
  intro i hi
  rw [BitVec.getMsbD_shiftLeft, BitVec.getMsbD_ushiftRight, Nat.add_sub_cancel]
  by_cases hlt : i + 1 < w
  · simp [hlt]
  · have hlast : i = w - 1 := by omega
    simp [hlast, h]

/-- **A message that fits** is added to the top of the register, which is then
shifted once for each of its bits. -/
theorem crcBits_eq_iterate (poly c : BitVec w) {bits : List Bool} (hlen : bits.length ≤ w) :
    crcBits poly c bits = (crcShift poly)^[bits.length] (c ^^^ topBits w bits) := by
  induction bits generalizing c with
  | nil => simp [topBits]
  | cons bit bits ih =>
      have hfits : bits.length < w := hlen
      -- the rest of the message leaves the lowest bit free
      have hlast : (topBits w bits).getMsbD (w - 1) = false := by
        have hnone : bits[w - 1]? = none := List.getElem?_eq_none (by omega)
        rw [getMsbD_topBits, List.getD_eq_getElem?_getD, hnone]
        exact Bool.and_false _
      rw [crcBits_cons, ih _ (Nat.le_of_lt hfits), List.length_cons, Function.iterate_succ_apply,
        topBits, xor_crcAdd, crcShift_xor, crcShift_ushiftRight poly hlast]
      rfl

/-! ## §5. Bursts. -/

/-- Some bits are set, and the set bits lie within `n` consecutive ones. -/
def IsBurst (n : Nat) (bits : List Bool) : Prop :=
  ∃ before burst after, bits = List.replicate before false ++ burst ++ List.replicate after false
    ∧ burst.length ≤ n ∧ true ∈ burst

/-- **A burst that fits the register leaves a trace in it.** -/
theorem crcBits_burst_ne {poly : BitVec w} (hodd : poly.getLsbD 0 = true) {bits : List Bool}
    (h : IsBurst w bits) : crcBits poly 0#w bits ≠ 0#w := by
  obtain ⟨before, burst, after, rfl, hlen, hset⟩ := h
  intro hzero
  rw [crcBits_append, crcBits_append, crcBits_zero_replicate_false, crcBits_replicate_false] at hzero
  have hburst := eq_zero_of_iterate_crcShift hodd hzero
  rw [crcBits_eq_iterate poly 0#w hlen, BitVec.zero_xor] at hburst
  have hnone := eq_false_of_topBits hlen (eq_zero_of_iterate_crcShift hodd hburst)
  exact Bool.false_ne_true (hnone true hset).symm

/-- The registers of a message with and without a burst differ. -/
theorem crcBits_xorBits_ne {poly : BitVec w} (hodd : poly.getLsbD 0 = true) (c : BitVec w)
    {bits errors : List Bool} (hlen : bits.length = errors.length) (h : IsBurst w errors) :
    crcBits poly c (xorBits bits errors) ≠ crcBits poly c bits := by
  intro heq
  have hlinear := crcBits_xor poly c 0#w hlen
  rw [BitVec.xor_zero, heq] at hlinear
  have hself : crcBits poly c bits ^^^ crcBits poly c bits
      = crcBits poly c bits ^^^ (crcBits poly c bits ^^^ crcBits poly 0#w errors) :=
    congrArg _ hlinear
  rw [← BitVec.xor_assoc, BitVec.xor_self, BitVec.zero_xor] at hself
  exact crcBits_burst_ne hodd h hself.symm

end WallController.Lib
