/-
  WallController.Lib.StartSequence
  ────────────────────────────────
  **SEARCHING A START SEQUENCE.**

  A receiver that looks for a start sequence holds how many of its symbols it
  has seen.  On a symbol that does not go on it starts over, at the second
  position when the symbol is the first one of the sequence.  This is right for
  a sequence whose first symbol does not occur again:

      Progress     the position is the length of the longest prefix of the
                   sequence that the symbols received so far end in
      advance      keeps it, so the sequence is found at its first occurrence

  Another receiver reads, on the first symbol of the sequence, as many symbols
  as follow it there, and starts over behind all of them:

      swallowed    the number of symbols that it reads, of what follows, along
                   with those it has been given
      block_ne     it does not find the sequence where it is not

  Nothing is assumed about the symbols.
-/
import Mathlib.Data.List.Infix

namespace WallController.Lib

/-- A start sequence, whose first symbol does not occur again. -/
structure StartSequence (α : Type*) where
  first : α
  rest : List α
  first_notMem : first ∉ rest

namespace StartSequence

variable {α : Type*} (S : StartSequence α)

/-! ## §1. Symbol by symbol. -/

/-- The symbols of the sequence. -/
def symbols : List α := S.first :: S.rest

/-- The number of symbols. -/
def length : Nat := S.symbols.length

theorem length_pos : 0 < S.length := Nat.succ_pos _

/-- Behind the first place there is another symbol. -/
theorem ne_first_of_getElem? {i : Nat} {b : α} (hi : 0 < i) (h : S.symbols[i]? = some b) :
    b ≠ S.first := by
  rintro rfl
  obtain ⟨j, rfl⟩ : ∃ j, i = j + 1 := ⟨i - 1, by omega⟩
  apply S.first_notMem
  exact List.mem_of_getElem? (by simpa [symbols] using h)

/-- A received symbol ends a prefix of the sequence. -/
theorem take_succ_suffix_iff {k : Nat} (hk : k < S.length) (xs : List α) (b : α) :
    S.symbols.take (k + 1) <:+ xs ++ [b] ↔ S.symbols.take k <:+ xs ∧ S.symbols[k]? = some b := by
  have hget : S.symbols[k]? = some (S.symbols.get ⟨k, hk⟩) := List.getElem?_eq_getElem hk
  rw [List.take_add_one, hget]
  constructor
  · rintro ⟨pre, hpre⟩
    rw [Option.toList_some, ← List.append_assoc] at hpre
    obtain ⟨hxs, hb⟩ := List.append_inj' hpre rfl
    exact ⟨⟨pre, hxs⟩, congrArg some (List.singleton_inj.mp hb)⟩
  · rintro ⟨⟨pre, rfl⟩, hb⟩
    refine ⟨pre, ?_⟩
    rw [Option.toList_some, ← List.append_assoc, Option.some.inj hb]

/-- Of two prefixes that the same symbols end in, the shorter one is empty. -/
theorem eq_zero_of_suffix {i k : Nat} {xs : List α} (hi : i ≤ S.length)
    (h : S.symbols.take i <:+ xs) (hk : S.symbols.take k <:+ xs) (hlt : k < i) : k = 0 := by
  by_contra hne
  -- the shorter one begins behind the first place of the longer one
  have hin : S.symbols.take k <:+ S.symbols.take i := by
    refine List.suffix_of_suffix_length_le hk h ?_
    rw [List.length_take, List.length_take]
    omega
  obtain ⟨pre, hpre⟩ := hin
  have hlen : pre.length + min k S.length = min i S.length := by
    have := congrArg List.length hpre
    rwa [List.length_append, List.length_take, List.length_take] at this
  have hfirst : (S.symbols.take k)[0]? = some S.first := by
    rw [List.getElem?_take, if_pos (Nat.pos_of_ne_zero hne)]
    rfl
  have hplace : S.symbols[pre.length]? = some S.first := by
    rw [← List.getElem?_take_of_lt (show pre.length < i by omega), ← hpre,
      List.getElem?_append_right (Nat.le_refl _), Nat.sub_self]
    exact hfirst
  exact S.ne_first_of_getElem? (by omega) hplace rfl

/-- The position is the length of the longest prefix of the sequence that the
symbols received so far end in. -/
structure Progress (xs : List α) (i : Nat) : Prop where
  le : i ≤ S.length
  suffix : S.symbols.take i <:+ xs
  longest : ∀ k ≤ S.length, S.symbols.take k <:+ xs → k ≤ i

theorem Progress.nil : S.Progress [] 0 where
  le := Nat.zero_le _
  suffix := List.suffix_refl _
  longest := by
    intro k hk h
    have hlen := h.length_le
    rw [List.length_take, List.length_nil] at hlen
    have := S.length_pos
    unfold length at hk this
    omega

variable {S}

/-- The sequence has been received when the position is its end. -/
theorem Progress.complete_iff {xs : List α} {i : Nat} (h : S.Progress xs i) :
    i = S.length ↔ S.symbols <:+ xs := by
  have htake : S.symbols.take S.length = S.symbols := List.take_length
  constructor
  · rintro rfl
    rw [← htake]
    exact h.suffix
  · intro hs
    rw [← htake] at hs
    exact Nat.le_antisymm h.le (h.longest _ (Nat.le_refl _) hs)

variable [DecidableEq α]

/-- The position after one more symbol. -/
def advance (S : StartSequence α) (i : Nat) (b : α) : Nat :=
  if S.symbols[i]? = some b then i + 1 else if b = S.first then 1 else 0

/-- **One symbol.** -/
theorem Progress.advance {xs : List α} {i : Nat} (h : S.Progress xs i) (hi : i < S.length) (b : α) :
    S.Progress (xs ++ [b]) (S.advance i b) := by
  unfold StartSequence.advance
  by_cases hgoes : S.symbols[i]? = some b
  · rw [if_pos hgoes]
    refine ⟨hi, (S.take_succ_suffix_iff hi xs b).mpr ⟨h.suffix, hgoes⟩, ?_⟩
    intro k hk hs
    cases k with
    | zero => exact Nat.zero_le _
    | succ k =>
        have hshort := ((S.take_succ_suffix_iff hk xs b).mp hs).1
        exact Nat.succ_le_succ (h.longest k (Nat.le_of_succ_le hk) hshort)
  rw [if_neg hgoes]
  -- a prefix that `b` ends is one symbol longer than a prefix before
  have hshorter : ∀ k < S.length, S.symbols.take (k + 1) <:+ xs ++ [b] → k = 0 := by
    intro k hk hs
    obtain ⟨hshort, hb⟩ := (S.take_succ_suffix_iff hk xs b).mp hs
    have hle := h.longest k (Nat.le_of_lt hk) hshort
    rcases Nat.lt_or_eq_of_le hle with hlt | rfl
    · exact S.eq_zero_of_suffix h.le h.suffix hshort hlt
    · exact absurd hb hgoes
  by_cases hfirst : b = S.first
  · rw [if_pos hfirst, hfirst]
    refine ⟨S.length_pos, ⟨xs, rfl⟩, ?_⟩
    intro k hk hs
    cases k with
    | zero => exact Nat.zero_le _
    | succ k =>
        rw [hshorter k hk (hfirst ▸ hs)]
  · rw [if_neg hfirst]
    refine ⟨Nat.zero_le _, List.nil_suffix, ?_⟩
    intro k hk hs
    cases k with
    | zero => exact Nat.le_refl _
    | succ k =>
        have hzero := hshorter k hk hs
        rw [hzero] at hs
        have hb := ((S.take_succ_suffix_iff S.length_pos xs b).mp hs).2
        exact absurd (Option.some.inj hb).symm hfirst

/-! ## §2. Block by block. -/

/-- With `n` symbols of a block still to be read, the number still to be read
behind `xs`. -/
def swallowed (S : StartSequence α) : Nat → List α → Nat
  | n, [] => n
  | n + 1, _ :: xs => S.swallowed n xs
  | 0, b :: xs => if b = S.first then S.swallowed S.rest.length xs else S.swallowed 0 xs

/-- The block ends before the symbols do. -/
theorem swallowed_of_le {n : Nat} {xs : List α} (h : n ≤ xs.length) :
    S.swallowed n xs = S.swallowed 0 (xs.drop n) := by
  induction xs generalizing n with
  | nil =>
      rw [Nat.le_zero.mp h]
      rfl
  | cons b xs ih =>
      cases n with
      | zero => rfl
      | succ n => exact ih (Nat.le_of_succ_le_succ h)

/-- The symbols end before the block does. -/
theorem swallowed_of_lt {n : Nat} {xs : List α} (h : xs.length < n) :
    S.swallowed n xs = n - xs.length := by
  induction xs generalizing n with
  | nil =>
      cases n with
      | zero => rfl
      | succ n => rfl
  | cons b xs ih =>
      cases n with
      | zero => exact absurd h (Nat.not_lt_zero _)
      | succ n =>
          rw [List.length_cons] at h ⊢
          show S.swallowed n xs = _
          rw [ih (by omega)]
          omega

omit [DecidableEq α] in
/-- The block that begins before the sequence is not the sequence. -/
theorem block_ne {xs : List α} (h : ¬ S.symbols <:+: S.first :: xs) (tail : List α) :
    (xs ++ (S.symbols ++ tail)).take S.rest.length ≠ S.rest := by
  intro heq
  by_cases hle : S.rest.length ≤ xs.length
  · -- the block lies before the sequence
    rw [List.take_append_of_le_length hle] at heq
    apply h
    refine List.IsPrefix.isInfix ⟨xs.drop S.rest.length, ?_⟩
    show S.first :: (S.rest ++ _) = _
    rw [← heq, List.length_take, Nat.min_eq_left hle, List.take_append_drop]
  · -- the first symbol of the sequence lies in the block
    apply S.first_notMem
    rw [← heq, List.mem_take_iff_getElem]
    refine ⟨xs.length, ?_, ?_⟩
    · rw [List.length_append, List.length_append]
      have := S.length_pos
      unfold length at this
      omega
    · rw [List.getElem_append_right (Nat.le_refl _)]
      simp [symbols]

end StartSequence

end WallController.Lib
