/-
  WallController.Lib.WriteThrough
  ────────────────────────────────
  **A TABLE IN MEMORY, WRITTEN THROUGH TO STORAGE.**

  Entries of type `α` under keys `ι`, each also stored as a value of type `β`
  that `read` decodes.  The owner of the table saves one entry at a time; a
  second writer overwrites stored values without the owner's knowledge.

  A save has three outcomes: it is done, it is refused with nothing changed,
  or the new value is stored although the save is reported as failed, and
  the owner keeps the old entry.

  Two invariants:
      Agrees     every stored value is decoded to the entry in memory
      Covered    at most one entry in memory is marked, and only what is
                 marked in memory is marked in storage
-/
import Mathlib.Data.Set.Subsingleton
import Mathlib.Logic.Function.Basic

namespace WallController.Lib

/-- What became of a save. -/
inductive SaveOutcome where
  | done
  | refused
  | misreported
  deriving DecidableEq, Repr

structure WriteThrough (ι α β : Type*) where
  cache : ι → α
  disk : ι → Option β

namespace WriteThrough

variable {ι α β : Type*} [DecidableEq ι]

/-! ## §1. The two writers. -/

/-- The owner saves the entry `a`, stored as `b`. -/
def save (s : WriteThrough ι α β) (i : ι) (a : α) (b : β) : SaveOutcome → WriteThrough ι α β
  | .done => ⟨Function.update s.cache i a, Function.update s.disk i (some b)⟩
  | .refused => s
  | .misreported => ⟨s.cache, Function.update s.disk i (some b)⟩

/-- The other writer stores `b`. -/
def overwrite (s : WriteThrough ι α β) (i : ι) (b : β) : WriteThrough ι α β :=
  ⟨s.cache, Function.update s.disk i (some b)⟩

variable (read : ι → β → Option α)

/-- What a stored value is decoded to. -/
def stored (s : WriteThrough ι α β) (i : ι) : Option α := (s.disk i).bind (read i)

def Agrees (s : WriteThrough ι α β) : Prop := ∀ i, s.stored read i = some (s.cache i)

variable (m : α → Prop)

/-- The keys marked in storage. -/
def storedMarks (s : WriteThrough ι α β) : Set ι := {i | ∃ a, s.stored read i = some a ∧ m a}

/-- The keys marked in memory. -/
def cacheMarks (s : WriteThrough ι α β) : Set ι := {i | m (s.cache i)}

structure Covered (s : WriteThrough ι α β) : Prop where
  single : (s.cacheMarks m).Subsingleton
  sub : s.storedMarks read m ⊆ s.cacheMarks m

variable {read m} {s : WriteThrough ι α β} {i j : ι} {a : α} {b : β}

/-! ## §2. The stored values after a write. -/

theorem stored_overwrite_self (hread : read i b = some a) :
    (s.overwrite i b).stored read i = some a := by
  simp [stored, overwrite, hread]

theorem stored_overwrite_ne (hne : j ≠ i) : (s.overwrite i b).stored read j = s.stored read j := by
  simp [stored, overwrite, Function.update_of_ne hne]

/-- A write of the owner reaches the storage as one of the other writer. -/
theorem stored_save_done : (s.save i a b .done).stored read j = (s.overwrite i b).stored read j :=
  rfl

/-! ## §3. Agreement. -/

/-- A save that is done keeps the agreement. -/
theorem Agrees.save (h : s.Agrees read) (hread : read i b = some a) :
    (s.save i a b .done).Agrees read := by
  intro j
  rw [stored_save_done]
  show (s.overwrite i b).stored read j = some (Function.update s.cache i a j)
  by_cases hj : j = i
  · subst hj
    rw [stored_overwrite_self hread, Function.update_self]
  · rw [stored_overwrite_ne hj, Function.update_of_ne hj]
    exact h j

/-- The other writer keeps it by storing the entry in memory, and only so. -/
theorem Agrees.overwrite_iff (h : s.Agrees read) :
    (s.overwrite i b).Agrees read ↔ read i b = some (s.cache i) := by
  constructor
  · intro h'
    have := h' i
    simpa [stored, overwrite] using this
  · intro hread j
    by_cases hj : j = i
    · subst hj
      exact stored_overwrite_self hread
    · rw [stored_overwrite_ne hj]
      exact h j

/-! ## §4. Marks. -/

omit [DecidableEq ι] in
/-- At most one key is marked in storage. -/
theorem Covered.storedMarks (h : s.Covered read m) : (s.storedMarks read m).Subsingleton :=
  h.single.anti h.sub

omit [DecidableEq ι] in
theorem Agrees.storedMarks_eq (h : s.Agrees read) : s.storedMarks read m = s.cacheMarks m := by
  ext i
  constructor
  · rintro ⟨a, ha, hm⟩
    have : s.cache i = a := Option.some.inj ((h i).symm.trans ha)
    show m (s.cache i)
    rw [this]
    exact hm
  · intro hm
    exact ⟨s.cache i, h i, hm⟩

omit [DecidableEq ι] in
/-- A table that agrees with its storage covers it. -/
theorem Agrees.covered (h : s.Agrees read) (hsingle : (s.storedMarks read m).Subsingleton) :
    s.Covered read m :=
  ⟨by rwa [← h.storedMarks_eq], h.storedMarks_eq.subset⟩

/-- An overwrite is covered where the mark it stores is one in memory. -/
theorem Covered.overwrite (h : s.Covered read m)
    (hmark : ∀ a, read i b = some a → m a → m (s.cache i)) : (s.overwrite i b).Covered read m := by
  refine ⟨h.single, ?_⟩
  rintro j ⟨a, ha, hm⟩
  by_cases hj : j = i
  · subst hj
    exact hmark a (by simpa [stored, WriteThrough.overwrite] using ha) hm
  · rw [stored_overwrite_ne hj] at ha
    exact h.sub ⟨a, ha, hm⟩

/-- At most one key stays marked in memory where nothing is marked beside a marked
entry that is saved. -/
theorem cacheMarks_save {o : SaveOutcome} (h : (s.cacheMarks m).Subsingleton)
    (hsingle : m a → ∀ j, m (s.cache j) → j = i) :
    ((s.save i a b o).cacheMarks m).Subsingleton := by
  cases o with
  | refused | misreported => exact h
  | done =>
    have hcache : ∀ j, j ≠ i → m (Function.update s.cache i a j) → m (s.cache j) := by
      intro j hj hm
      rwa [Function.update_of_ne hj] at hm
    intro j hj k hk
    change m (Function.update s.cache i a j) at hj
    change m (Function.update s.cache i a k) at hk
    by_cases hji : j = i
    · subst hji
      rw [Function.update_self] at hj
      by_contra hne
      exact hne (hsingle hj k (hcache k (Ne.symm hne) hk)).symm
    · by_cases hki : k = i
      · subst hki
        rw [Function.update_self] at hk
        exact absurd (hsingle hk j (hcache j hji hj)) hji
      · exact h (hcache j hji hj) (hcache k hki hk)

/-- A save is covered where no other entry in memory is marked beside a marked
one, and a save that is misreported marks nothing new. -/
theorem Covered.save {o : SaveOutcome} (h : s.Covered read m) (hread : read i b = some a)
    (hsingle : m a → ∀ j, m (s.cache j) → j = i)
    (hnew : o = .misreported → m a → m (s.cache i)) : (s.save i a b o).Covered read m := by
  cases o with
  | refused => exact h
  | misreported =>
    refine h.overwrite fun a' ha' hm => ?_
    rw [hread] at ha'
    cases ha'
    exact hnew rfl hm
  | done =>
    refine ⟨cacheMarks_save h.single hsingle, ?_⟩
    rintro j ⟨a', ha', hm⟩
    show m (Function.update s.cache i a j)
    rw [stored_save_done] at ha'
    by_cases hji : j = i
    · subst hji
      rw [stored_overwrite_self hread] at ha'
      cases ha'
      rwa [Function.update_self]
    · rw [stored_overwrite_ne hji] at ha'
      rw [Function.update_of_ne hji]
      exact h.sub ⟨a', ha', hm⟩

end WriteThrough

end WallController.Lib
