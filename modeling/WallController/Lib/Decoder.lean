/-
  WallController.Lib.Decoder
  ────────────────────────────────
  **DECODERS THAT ARE FED PIECE BY PIECE.**

  A decoder keeps a state and a buffer of input that it has not used up.  One
  step of it uses up the beginning of the buffer, and can emit something; it
  does not depend on what has not arrived yet (`step_append`).  So it does not
  matter whether the decoder runs until it needs more input and is then fed the
  rest, or gets all of its input at once (`Drains.append`).

  A decoder that is cut back to some of its states (`restrict`) is one again:
  it stops where it leaves them.

  Main results:
    * `Drains.unique`, `exists_drains`: a decoder comes to rest in one way.
    * `Drains.append`: feeding a decoder that is at rest.
-/
import Mathlib.Data.List.Basic

namespace WallController.Lib

/-- A decoder over input `β` that emits `ω`.  A step gives the next state, how
much of the buffer it used up, and what it emitted. -/
structure Decoder (σ β ω : Type*) where
  step : σ → List β → Option (σ × Nat × List ω)
  step_append : ∀ {s b r}, step s b = some r → ∀ more, step s (b ++ more) = some r
  step_uses : ∀ {s b s' n out}, step s b = some (s', n, out) → 0 < n ∧ n ≤ b.length

namespace Decoder

variable {σ β ω : Type*} {D : Decoder σ β ω}
variable {s s' s₁ s₂ : σ} {b b' b₁ b₂ : List β} {out out₁ out₂ : List ω}

/-! ## §1. Runs. -/

/-- `D.Run s b out s' b'`: from `s` and the buffer `b`, emitting `out`. -/
inductive Run (D : Decoder σ β ω) : σ → List β → List ω → σ → List β → Prop
  | refl (s : σ) (b : List β) : D.Run s b [] s b
  | step {s s' s'' : σ} {b b'' : List β} {n : Nat} {out out' : List ω}
      (hstep : D.step s b = some (s', n, out)) (hrest : D.Run s' (b.drop n) out' s'' b'') :
      D.Run s b (out ++ out') s'' b''

/-- One step. -/
theorem Run.single {n : Nat} (h : D.step s b = some (s', n, out)) :
    D.Run s b out s' (b.drop n) := by
  have hrun := Run.step h (.refl s' (b.drop n))
  rwa [List.append_nil] at hrun

theorem Run.trans (h : D.Run s b out₁ s₁ b₁) (h' : D.Run s₁ b₁ out₂ s₂ b₂) :
    D.Run s b (out₁ ++ out₂) s₂ b₂ := by
  induction h with
  | refl s b => exact h'
  | step hstep _ ih =>
      rw [List.append_assoc]
      exact .step hstep (ih h')

/-- More input does not change a run. -/
theorem Run.append (h : D.Run s b out s' b') (more : List β) :
    D.Run s (b ++ more) out s' (b' ++ more) := by
  induction h with
  | refl s b => exact .refl s _
  | step hstep _ ih =>
      refine .step (D.step_append hstep more) ?_
      rw [List.drop_append_of_le_length (D.step_uses hstep).2]
      exact ih

theorem Run.length_le (h : D.Run s b out s' b') : b'.length ≤ b.length := by
  induction h with
  | refl s b => exact Nat.le_refl _
  | step hstep _ ih =>
      rw [List.length_drop] at ih
      omega

/-! ## §2. Coming to rest. -/

/-- The decoder needs more input. -/
def Quiet (D : Decoder σ β ω) (s : σ) (b : List β) : Prop := D.step s b = none

/-- A run that comes to rest. -/
structure Drains (D : Decoder σ β ω) (s : σ) (b : List β) (out : List ω) (s' : σ) (b' : List β) :
    Prop where
  run : D.Run s b out s' b'
  quiet : D.Quiet s' b'

/-- A decoder at rest stays there. -/
theorem Quiet.drains (h : D.Quiet s b) : D.Drains s b [] s b := ⟨.refl s b, h⟩

theorem Quiet.run_eq (h : D.Quiet s b) (hrun : D.Run s b out s' b') :
    out = [] ∧ s' = s ∧ b' = b := by
  cases hrun with
  | refl => exact ⟨rfl, rfl, rfl⟩
  | step hstep _ =>
      rw [h] at hstep
      cases hstep

/-- **Every decoder comes to rest**: each of its steps uses up input. -/
theorem exists_drains (D : Decoder σ β ω) (s : σ) (b : List β) :
    ∃ out s' b', D.Drains s b out s' b' := by
  induction hn : b.length using Nat.strongRecOn generalizing s b with
  | _ n ih =>
      cases hstep : D.step s b with
      | none => exact ⟨[], s, b, Quiet.drains hstep⟩
      | some r =>
          obtain ⟨s₁, k, out₁⟩ := r
          have huses := D.step_uses hstep
          have hlt : (b.drop k).length < n := by
            rw [List.length_drop]
            omega
          obtain ⟨out, s', b', hdrains⟩ := ih _ hlt s₁ (b.drop k) rfl
          exact ⟨out₁ ++ out, s', b', .step hstep hdrains.run, hdrains.quiet⟩

/-- **It does so in one way.** -/
theorem Drains.unique (h₁ : D.Drains s b out₁ s₁ b₁) (h₂ : D.Drains s b out₂ s₂ b₂) :
    out₁ = out₂ ∧ s₁ = s₂ ∧ b₁ = b₂ := by
  obtain ⟨hrun, hquiet⟩ := h₁
  induction hrun generalizing out₂ with
  | refl s b =>
      cases h₂.run with
      | refl => exact ⟨rfl, rfl, rfl⟩
      | step hstep _ =>
          rw [hquiet] at hstep
          cases hstep
  | step hstep _ ih =>
      obtain ⟨hrun', hquiet'⟩ := h₂
      cases hrun' with
      | refl =>
          rw [hquiet'] at hstep
          cases hstep
      | step hstep' hrest' =>
          rw [hstep] at hstep'
          cases hstep'
          obtain ⟨hout, hs, hb⟩ := ih ⟨hrest', hquiet'⟩ hquiet
          exact ⟨by rw [hout], hs, hb⟩

/-- **Feeding a decoder that is at rest** is feeding it everything at once. -/
theorem Drains.append (h : D.Drains s b out₁ s₁ b₁) {more : List β}
    (h' : D.Drains s₁ (b₁ ++ more) out₂ s₂ b₂) : D.Drains s (b ++ more) (out₁ ++ out₂) s₂ b₂ :=
  ⟨(h.run.append more).trans h'.run, h'.quiet⟩

/-- A run can be followed to where it comes to rest. -/
theorem Run.drains (h : D.Run s b out₁ s₁ b₁) (h' : D.Drains s₁ b₁ out₂ s₂ b₂) :
    D.Drains s b (out₁ ++ out₂) s₂ b₂ := ⟨h.trans h'.run, h'.quiet⟩

/-! ## §3. Some of the states. -/

/-- The decoder as long as its state satisfies `p`. -/
def restrict (D : Decoder σ β ω) (p : σ → Bool) : Decoder σ β ω where
  step s b := if p s then D.step s b else none
  step_append {s b r} h more := by
    by_cases hp : p s = true
    · rw [if_pos hp] at h ⊢
      exact D.step_append h more
    · rw [if_neg hp] at h
      cases h
  step_uses {s b s' n out} h := by
    by_cases hp : p s = true
    · rw [if_pos hp] at h
      exact D.step_uses h
    · rw [if_neg hp] at h
      cases h

variable {p : σ → Bool}

theorem restrict_step (hp : p s = true) (b : List β) : (D.restrict p).step s b = D.step s b :=
  if_pos hp

/-- Outside of the states the decoder is at rest. -/
theorem restrict_quiet (hp : p s = false) (b : List β) : (D.restrict p).Quiet s b :=
  if_neg (Bool.eq_false_iff.mp hp)

end Decoder

end WallController.Lib
