/-
  WallController.Lib.Resend
  ────────────────────────────────
  **ITEMS THAT ARE SENT AGAIN IN BATCHES.**

  Of the items that are still pending, a round sends the first `k` again and
  loses some of them.  A round never adds an item, and one that loses nothing
  takes away `k`.

  Main result:
    * `length_pendingAfter_le`: what is pending after some rounds, by the number
      of rounds among them that lose nothing.
-/
import Mathlib.Data.List.Nodup

namespace WallController.Lib

variable {α : Type}

/-! ## §1. One round. -/

/-- The pending items after a round that sends the first `k` again. -/
def resendRound (k : Nat) (lost : α → Bool) (pending : List α) : List α :=
  (pending.take k).filter lost ++ pending.drop k

@[simp] theorem resendRound_nil (k : Nat) (lost : α → Bool) : resendRound k lost [] = [] := by
  simp [resendRound]

/-- A round takes items away, and leaves the order of the others. -/
theorem resendRound_sublist (k : Nat) (lost : α → Bool) (pending : List α) :
    (resendRound k lost pending).Sublist pending := by
  have h := (List.filter_sublist (p := lost) (l := pending.take k)).append_right (pending.drop k)
  rwa [List.take_append_drop] at h

/-- An item stays pending if the round does not send it, or loses it. -/
theorem mem_resendRound {k : Nat} {lost : α → Bool} {pending : List α} (hp : pending.Nodup)
    {a : α} : a ∈ resendRound k lost pending
      ↔ a ∈ pending ∧ (a ∈ pending.take k → lost a = true) := by
  have hdisjoint : a ∈ pending.take k → a ∉ pending.drop k := by
    intro h₁ h₂
    rw [← List.take_append_drop k pending] at hp
    exact (List.nodup_append.mp hp).2.2 a h₁ a h₂ rfl
  have hsplit : a ∈ pending ↔ a ∈ pending.take k ∨ a ∈ pending.drop k := by
    rw [← List.mem_append, List.take_append_drop]
  unfold resendRound
  rw [List.mem_append, List.mem_filter, hsplit]
  constructor
  · rintro (⟨h, hlost⟩ | h)
    · exact ⟨.inl h, fun _ => hlost⟩
    · exact ⟨.inr h, fun h' => absurd h (hdisjoint h')⟩
  · rintro ⟨h | h, hlost⟩
    · exact .inl ⟨h, hlost h⟩
    · exact .inr h

/-- A round that loses nothing. -/
theorem resendRound_clean {k : Nat} {lost : α → Bool} {pending : List α}
    (h : ∀ a, lost a = false) : resendRound k lost pending = pending.drop k := by
  unfold resendRound
  rw [List.filter_eq_nil_iff.mpr fun a _ => by rw [h a]; exact Bool.false_ne_true]
  exact List.nil_append _

/-! ## §2. Some rounds. -/

/-- The pending items after `left` rounds, of which the first has the number
`round`. -/
def pendingAfter (k : Nat) (lost : Nat → α → Bool) : (round left : Nat) → List α → List α
  | _, 0, pending => pending
  | round, left + 1, pending =>
      pendingAfter k lost (round + 1) left (resendRound k (lost round) pending)

@[simp] theorem pendingAfter_nil (k : Nat) (lost : Nat → α → Bool) (round left : Nat) :
    pendingAfter k lost round left [] = [] := by
  induction left generalizing round with
  | zero => rfl
  | succ left ih =>
      unfold pendingAfter
      rw [resendRound_nil]
      exact ih (round + 1)

/-- The rounds of a range that lose nothing, `clean` telling which they are. -/
def cleanRounds (clean : Nat → Bool) (round left : Nat) : Nat :=
  (List.range' round left).countP clean

/-- **What is pending after some rounds.** -/
theorem length_pendingAfter_le (k : Nat) {lost : Nat → α → Bool} {clean : Nat → Bool}
    (hclean : ∀ r, clean r = true → ∀ a, lost r a = false) (round left : Nat) (pending : List α) :
    (pendingAfter k lost round left pending).length
      ≤ pending.length - k * cleanRounds clean round left := by
  induction left generalizing round pending with
  | zero => exact Nat.le_refl _
  | succ left ih =>
      have hrest := ih (round + 1) (resendRound k (lost round) pending)
      have hcount : cleanRounds clean round (left + 1)
          = cleanRounds clean (round + 1) left + if clean round then 1 else 0 := by
        unfold cleanRounds
        rw [List.range'_succ, List.countP_cons]
      show (pendingAfter k lost (round + 1) left _).length ≤ _
      rw [hcount, Nat.mul_add]
      by_cases hr : clean round = true
      · rw [resendRound_clean (hclean round hr), List.length_drop] at hrest
        rw [resendRound_clean (hclean round hr), if_pos hr]
        omega
      · have hle := (resendRound_sublist k (lost round) pending).length_le
        rw [if_neg hr]
        omega

end WallController.Lib
