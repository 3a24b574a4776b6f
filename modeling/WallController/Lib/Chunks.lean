/-
  WallController.Lib.Chunks
  ────────────────────────────────
  **A LENGTH CUT INTO CHUNKS.**

  A length `n` is cut into chunks of `c`; chunk `i` has `chunkLen c n i`
  elements, `c` for the full ones, fewer for the last one and none past the
  end.  The question the library answers is when a set of received chunks is
  complete: their lengths add up to at most `n`, and to exactly `n` if and
  only if every non-empty chunk is among them.
-/
import Mathlib.Algebra.BigOperators.Group.Finset.Basic
import Mathlib.Algebra.Order.BigOperators.Group.Finset
import Mathlib.Tactic.Linarith
import Mathlib.Tactic.Ring

namespace WallController.Lib

open Finset

/-- The length of chunk `i` of a length `n` cut into chunks of `c`. -/
def chunkLen (c n i : Nat) : Nat := min c (n - c * i)

variable {c n : Nat}

theorem chunkLen_le (i : Nat) : chunkLen c n i ≤ c := min_le_left _ _

/-- A chunk is empty exactly when it starts past the end. -/
theorem chunkLen_eq_zero_iff (hc : 0 < c) (i : Nat) : chunkLen c n i = 0 ↔ n ≤ c * i := by
  unfold chunkLen
  omega

/-- The first `k` chunks cover the first `c * k` elements. -/
theorem sum_chunkLen_range (k : Nat) :
    ∑ i ∈ range k, chunkLen c n i = min (c * k) n := by
  induction k with
  | zero => simp
  | succ k ih =>
      rw [sum_range_succ, ih, chunkLen, Nat.mul_succ]
      omega

/-- Any set of chunks adds up to at most the whole length. -/
theorem sum_chunkLen_le (S : Finset Nat) : ∑ i ∈ S, chunkLen c n i ≤ n := by
  obtain ⟨k, hk⟩ : ∃ k, S ⊆ range k := S.exists_nat_subset_range
  calc ∑ i ∈ S, chunkLen c n i
      ≤ ∑ i ∈ range k, chunkLen c n i := sum_le_sum_of_subset hk
    _ = min (c * k) n := sum_chunkLen_range k
    _ ≤ n := min_le_right _ _

/-- A chunk that is not in the set yet still fits. -/
theorem sum_chunkLen_add_le {S : Finset Nat} {i : Nat} (hi : i ∉ S) :
    ∑ j ∈ S, chunkLen c n j + chunkLen c n i ≤ n := by
  have h := sum_chunkLen_le (c := c) (n := n) (insert i S)
  rw [sum_insert hi] at h
  omega

/-- **Completeness**: the lengths add up to the whole exactly when every
non-empty chunk is present. -/
theorem sum_chunkLen_eq_iff (hc : 0 < c) (S : Finset Nat) :
    ∑ i ∈ S, chunkLen c n i = n ↔ ∀ i, c * i < n → i ∈ S := by
  constructor
  · intro hsum i hi
    by_contra hnot
    have hfit := sum_chunkLen_add_le (c := c) (n := n) hnot
    have hpos : chunkLen c n i ≠ 0 := by
      rw [Ne, chunkLen_eq_zero_iff hc]
      omega
    omega
  · intro hall
    -- the chunks below `n` alone already cover everything
    have hsub : range ((n + c - 1) / c) ⊆ S := by
      intro i hi
      rw [mem_range, Nat.lt_div_iff_mul_lt hc] at hi
      apply hall
      rw [Nat.mul_comm]
      omega
    have hcover : n ≤ c * ((n + c - 1) / c) := by
      have := Nat.div_add_mod (n + c - 1) c
      have := Nat.mod_lt (n + c - 1) hc
      omega
    have hlow : n ≤ ∑ i ∈ S, chunkLen c n i := by
      calc n = min (c * ((n + c - 1) / c)) n := (min_eq_right hcover).symm
        _ = ∑ i ∈ range ((n + c - 1) / c), chunkLen c n i := (sum_chunkLen_range _).symm
        _ ≤ ∑ i ∈ S, chunkLen c n i := sum_le_sum_of_subset hsub
    exact le_antisymm (sum_chunkLen_le S) hlow

end WallController.Lib
