/-
  WallController.Lib.Mutex
  ────────────────────────────────
  **RECURSIVE MUTEXES AND THE ORDER OF LOCKS.**

  A mutex has an owner and counts how often that owner has locked it; an unlock
  by any other thread does nothing.  A hand-over to a waiting thread is an
  unlock followed by the lock of that thread.

  A set of threads is deadlocked if each of them waits for a mutex that one of
  them owns.  Threads that take mutexes in the order of a bounded rank never
  are (`not_deadlock`).
-/
import Mathlib.Data.Set.Basic
import Mathlib.Tactic.Common

namespace WallController.Lib

/-- A mutex; nobody owns it while the count is zero. -/
structure Mutex (ι : Type*) where
  owner : Option ι
  lock_count : Nat
  deriving DecidableEq, Repr

namespace Mutex

variable {ι : Type*} {m m' : Mutex ι} {t t' : ι}

/-- A free mutex. -/
def free : Mutex ι := ⟨none, 0⟩

/-- Locked once. -/
def heldBy (t : ι) : Mutex ι := ⟨some t, 1⟩

/-- Nobody has locked the mutex more than once. -/
def Plain (m : Mutex ι) : Prop := m = free ∨ ∃ t, m = heldBy t

theorem Plain.free : Plain (free : Mutex ι) := Or.inl rfl

variable [DecidableEq ι]

/-- The lock by `t`, where it does not have to wait. -/
def lock (m : Mutex ι) (t : ι) : Option (Mutex ι) :=
  if m.lock_count = 0 ∨ m.owner = some t then some ⟨some t, m.lock_count + 1⟩ else none

/-- The unlock by `t`, which only the owner can do. -/
def unlock (m : Mutex ι) (t : ι) : Mutex ι :=
  if m.owner = some t then
    if m.lock_count > 1 then { m with lock_count := m.lock_count - 1 } else free
  else m

/-- A lock by a thread that is not the owner. -/
theorem Plain.lock (h : m.Plain) (hne : m.owner ≠ some t) (hl : m.lock t = some m') :
    m = Mutex.free ∧ m' = heldBy t := by
  unfold Mutex.lock at hl
  rcases h with rfl | ⟨t', rfl⟩
  · have hfree : (Mutex.free : Mutex ι).lock_count = 0 ∨ (Mutex.free : Mutex ι).owner = some t :=
      Or.inl rfl
    rw [if_pos hfree] at hl
    exact ⟨rfl, (Option.some.inj hl).symm⟩
  · have hbusy : ¬ ((heldBy t').lock_count = 0 ∨ (heldBy t').owner = some t) := by
      rintro (hzero | howner)
      · cases hzero
      · exact hne howner
    rw [if_neg hbusy] at hl
    cases hl

/-- An unlock by the owner. -/
theorem unlock_heldBy (t : ι) : (heldBy t).unlock t = free := by
  have howner : (heldBy t).owner = some t := rfl
  have hone : ¬ (heldBy t).lock_count > 1 := Nat.lt_irrefl 1
  unfold Mutex.unlock
  rw [if_pos howner, if_neg hone]

theorem Plain.unlock_owner (h : m.Plain) (ho : m.owner = some t) : m.unlock t = Mutex.free := by
  rcases h with rfl | ⟨t', rfl⟩
  · cases ho
  · obtain rfl : t' = t := Option.some.inj ho
    exact unlock_heldBy t'

/-- An unlock by any other thread. -/
theorem unlock_of_ne (h : m.owner ≠ some t) : m.unlock t = m := if_neg h

theorem Plain.unlock (h : m.Plain) : (m.unlock t).Plain := by
  by_cases howner : m.owner = some t
  · rw [h.unlock_owner howner]
    exact .free
  · rw [unlock_of_ne howner]
    exact h

/-- Who owns the mutex after an unlock owned it before, and has not unlocked
it. -/
theorem owner_unlock (h : m.Plain) (ho : (m.unlock t).owner = some t') :
    m.owner = some t' ∧ t' ≠ t := by
  by_cases howner : m.owner = some t
  · rw [h.unlock_owner howner] at ho
    cases ho
  · rw [unlock_of_ne howner] at ho
    refine ⟨ho, ?_⟩
    rintro rfl
    exact howner ho

end Mutex

/-! ## The order of locks. -/

section Deadlock

variable {ι μ : Type*} (owner : μ → Option ι) (waits : ι → Option μ)

/-- Each thread of the set waits for a mutex that a thread of the set owns. -/
def Deadlock (S : Set ι) : Prop :=
  S.Nonempty ∧ ∀ t ∈ S, ∃ m, waits t = some m ∧ ∃ t' ∈ S, owner m = some t'

variable {owner waits}

/-- **The order of locks**: threads that wait only for mutexes of a rank above
those of the mutexes they own are not deadlocked. -/
theorem not_deadlock (rank : μ → Nat) (n : Nat) (hbound : ∀ m, rank m ≤ n)
    (horder : ∀ t m m', owner m = some t → waits t = some m' → rank m < rank m') (S : Set ι) :
    ¬ Deadlock owner waits S := by
  rintro ⟨⟨t, ht⟩, hall⟩
  -- the ranks along a chain of waiting threads grow beyond the bound
  have hchain : ∀ k, ∃ t ∈ S, ∃ m, waits t = some m ∧ k ≤ rank m := by
    intro k
    induction k with
    | zero =>
        obtain ⟨m, hm, -⟩ := hall t ht
        exact ⟨t, ht, m, hm, Nat.zero_le _⟩
    | succ k ih =>
        obtain ⟨t₁, ht₁, m₁, hm₁, hk⟩ := ih
        obtain ⟨m, hm, t₂, ht₂, howner⟩ := hall t₁ ht₁
        obtain ⟨m₂, hm₂, -⟩ := hall t₂ ht₂
        have hlt := horder t₂ m m₂ howner hm₂
        obtain rfl : m₁ = m := Option.some.inj (hm₁.symm.trans hm)
        exact ⟨t₂, ht₂, m₂, hm₂, by omega⟩
  obtain ⟨t', -, m, -, hrank⟩ := hchain (n + 1)
  have hle := hbound m
  omega

end Deadlock

end WallController.Lib
