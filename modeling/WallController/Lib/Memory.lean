/-
  WallController.Lib.Memory
  ────────────────────────────────
  **A BYTE MEMORY WITH BLOCK WRITES AND RANGE READS.**

  A memory is a total function from addresses to bytes.  `write` stores a
  block, `read` fetches a range.  The lemmas are the usual ones: a write is
  seen inside its block, invisible outside of it, and a read of two adjacent
  ranges is the concatenation of the two reads.
-/
import Mathlib.Data.List.GetD
import Mathlib.Tactic.Common

namespace WallController.Lib

/-- A byte-addressed memory. -/
abbrev Mem := Nat → UInt8

namespace Mem

/-- Store the block `bs` at address `a`. -/
def write (m : Mem) (a : Nat) (bs : List UInt8) : Mem := fun x =>
  if a ≤ x ∧ x < a + bs.length then bs.getD (x - a) 0 else m x

/-- The `n` bytes from address `a` on. -/
def read (m : Mem) (a n : Nat) : List UInt8 :=
  (List.range n).map fun i => m (a + i)

variable {m m' : Mem} {a n x : Nat} {bs : List UInt8}

theorem write_inside (h₁ : a ≤ x) (h₂ : x < a + bs.length) :
    m.write a bs x = bs.getD (x - a) 0 := by
  simp only [write, h₁, h₂, and_self, if_true]

theorem write_outside (h : x < a ∨ a + bs.length ≤ x) : m.write a bs x = m x := by
  unfold write
  rw [if_neg (by omega)]

@[simp] theorem length_read : (m.read a n).length = n := by
  simp [read]

@[simp] theorem read_zero : m.read a 0 = [] := rfl

theorem getElem_read {i : Nat} (h : i < (m.read a n).length) :
    (m.read a n)[i] = m (a + i) := by
  simp [read]

/-- Two memories that agree on a range give the same read of it. -/
theorem read_congr (h : ∀ x, a ≤ x → x < a + n → m x = m' x) :
    m.read a n = m'.read a n := by
  unfold read
  apply List.map_congr_left
  intro i hi
  have hi' : i < n := List.mem_range.mp hi
  exact h _ (by omega) (by omega)

/-- A range splits into two adjacent ranges. -/
theorem read_add (k : Nat) : m.read a (n + k) = m.read a n ++ m.read (a + n) k := by
  unfold read
  rw [List.range_add, List.map_append, List.map_map]
  congr 1
  apply List.map_congr_left
  intro i _
  show m (a + (n + i)) = m (a + n + i)
  rw [Nat.add_assoc]

/-- A read is the list it agrees with byte by byte. -/
theorem read_eq (hlen : bs.length = n) (h : ∀ i, (hi : i < n) → m (a + i) = bs.getD i 0) :
    m.read a n = bs := by
  apply List.ext_getElem (by simp [hlen])
  intro i h₁ h₂
  rw [getElem_read, h i (by omega), List.getD_eq_getElem _ _ h₂]

end Mem

end WallController.Lib
