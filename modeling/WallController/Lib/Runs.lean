/-
  WallController.Lib.Runs
  ────────────────────────────────
  **TRANSITION SYSTEMS AND THEIR RUNS.**

  A transition system is a set of initial states and a labelled step
  relation.  Two notions of run are developed here, over arbitrary state and
  label types:

      Reachable      every finite run from an initial state
      ReachableVia   the runs all of whose steps satisfy a condition on the
                     state before the step and on its label

  The induction over runs is done once, in `ReachableVia.invariant`: an
  invariant is given by its initial case and its step case.  A functional
  machine is the special case of a step function; its runs are left folds over
  the list of labels.

  `Inevitable` is what every run comes to: a measure that every step lowers,
  and a step wherever the goal has not been reached, show it.

  `erase` deletes steps from a run, by what the rest of the run makes of them.
-/
import Mathlib.Logic.Basic
import Mathlib.Data.List.Basic

namespace WallController.Lib

/-- A labelled transition system. -/
structure TransSys (σ : Type*) (α : Type*) where
  /-- The initial states. -/
  init : σ → Prop
  /-- `step s a s'`: the label `a` leads from `s` to `s'`. -/
  step : σ → α → σ → Prop

namespace TransSys

variable {σ α : Type*}

/-! ## §1. Runs. -/

/-- The states reached by the runs whose steps all satisfy `ok`. -/
inductive ReachableVia (M : TransSys σ α) (ok : σ → α → Prop) : σ → Prop
  | init {s : σ} (h : M.init s) : ReachableVia M ok s
  | step {s s' : σ} {a : α} (h : ReachableVia M ok s) (hok : ok s a)
      (hstep : M.step s a s') : ReachableVia M ok s'

/-- The states reached by any run. -/
def Reachable (M : TransSys σ α) : σ → Prop :=
  M.ReachableVia fun _ _ => True

variable {M : TransSys σ α} {ok ok' : σ → α → Prop}

/-- **The induction over runs**: what holds initially and is kept by every
step that satisfies the condition holds in every state reached. -/
theorem ReachableVia.invariant {I : σ → Prop} (h0 : ∀ s, M.init s → I s)
    (hstep : ∀ s a s', I s → ok s a → M.step s a s' → I s')
    {s : σ} (h : M.ReachableVia ok s) : I s := by
  induction h with
  | init h => exact h0 _ h
  | step _ hok hst ih => exact hstep _ _ _ ih hok hst

/-- The rule for unconditional runs. -/
theorem Reachable.invariant {I : σ → Prop} (h0 : ∀ s, M.init s → I s)
    (hstep : ∀ s a s', I s → M.step s a s' → I s')
    {s : σ} (h : M.Reachable s) : I s :=
  ReachableVia.invariant h0 (fun s a s' hi _ hst => hstep s a s' hi hst) h

/-- The same steps, from the state `s`. -/
def startedAt (M : TransSys σ α) (s : σ) : TransSys σ α := { M with init := fun s' => s' = s }

/-- **Where a property comes from**: what holds at the end of a run and not at its
beginning has come with one of its steps. -/
theorem Reachable.origin {P : σ → Prop} (h0 : ∀ s, M.init s → ¬ P s) {s : σ} (h : M.Reachable s)
    (hp : P s) : ∃ s₀ a s₁, M.Reachable s₀ ∧ ¬ P s₀ ∧ M.step s₀ a s₁ ∧ P s₁ ∧
      (M.startedAt s₁).Reachable s := by
  induction h with
  | init h => exact absurd hp (h0 _ h)
  | @step s s' a h _ hst ih =>
    by_cases hbefore : P s
    · obtain ⟨s₀, a₀, s₁, hr₀, hn₀, hst₀, hp₁, hrest⟩ := ih hbefore
      exact ⟨s₀, a₀, s₁, hr₀, hn₀, hst₀, hp₁, .step hrest trivial hst⟩
    · exact ⟨s, a, s', h, hbefore, hst, hp, .init rfl⟩

/-! ## §2. Functional machines. -/

/-- A list of labels all of which satisfy the condition, where the steps are
those of a function. -/
def AllOk (f : σ → α → σ) (ok : σ → α → Prop) : σ → List α → Prop
  | _, [] => True
  | s, a :: as => ok s a ∧ AllOk f ok (f s a) as

instance decidableAllOk [∀ s a, Decidable (ok s a)] (f : σ → α → σ) :
    ∀ (s : σ) (as : List α), Decidable (AllOk f ok s as)
  | _, [] => inferInstanceAs (Decidable True)
  | s, a :: as => @instDecidableAnd _ _ _ (decidableAllOk f (f s a) as)

/-- The fold over a list of labels is a run, where `f` makes steps. -/
theorem ReachableVia.foldl {f : σ → α → σ} (hf : ∀ s a, M.step s a (f s a)) {s : σ}
    (h : M.ReachableVia ok s) (as : List α) (hok : AllOk f ok s as) :
    M.ReachableVia ok (as.foldl f s) := by
  induction as generalizing s with
  | nil => exact h
  | cons a as ih => exact ih (.step h hok.1 (hf s a)) hok.2

/-- Without a condition. -/
theorem Reachable.foldl {f : σ → α → σ} (hf : ∀ s a, M.step s a (f s a)) {s : σ}
    (h : M.Reachable s) (as : List α) : M.Reachable (as.foldl f s) := by
  induction as generalizing s with
  | nil => exact h
  | cons a as ih => exact ih (.step h trivial (hf s a))

/-- A machine whose steps can be blocked, or refused by the condition. -/
theorem ReachableVia.foldlM {f : σ → α → Option σ}
    (hf : ∀ s a s', f s a = some s' → ok s a ∧ M.step s a s') {s s' : σ}
    (h : M.ReachableVia ok s) (as : List α) (hrun : as.foldlM f s = some s') :
    M.ReachableVia ok s' := by
  induction as generalizing s with
  | nil =>
    cases hrun
    exact h
  | cons a as ih =>
    rw [List.foldlM_cons] at hrun
    obtain ⟨s₁, h₁, hrun⟩ := Option.bind_eq_some_iff.mp hrun
    exact ih (.step h (hf _ _ _ h₁).1 (hf _ _ _ h₁).2) hrun

/-- Without a condition. -/
theorem Reachable.foldlM {f : σ → α → Option σ}
    (hf : ∀ s a s', f s a = some s' → M.step s a s') {s s' : σ}
    (h : M.Reachable s) (as : List α) (hrun : as.foldlM f s = some s') : M.Reachable s' :=
  ReachableVia.foldlM (fun s a s' hs => ⟨trivial, hf s a s' hs⟩) h as hrun

/-- A step that is refused where the condition fails. -/
def guarded (ok : σ → α → Prop) [∀ s a, Decidable (ok s a)] (f : σ → α → Option σ) (s : σ)
    (a : α) : Option σ :=
  if ok s a then f s a else none

theorem guarded_some [∀ s a, Decidable (ok s a)] {f : σ → α → Option σ} {s s' : σ} {a : α}
    (h : guarded ok f s a = some s') : ok s a ∧ f s a = some s' := by
  unfold guarded at h
  split at h
  · next hok => exact ⟨hok, h⟩
  · cases h

/-! ## §3. What every run comes to. -/

/-- Every run whose steps satisfy the condition comes to a state with `P`: it
neither stops before nor goes on for ever. -/
inductive Inevitable (M : TransSys σ α) (ok : σ → α → Prop) (P : σ → Prop) : σ → Prop
  | here {s : σ} (h : P s) : Inevitable M ok P s
  | later {s : σ} (hsome : ∃ a s', ok s a ∧ M.step s a s')
      (hall : ∀ a s', ok s a → M.step s a s' → Inevitable M ok P s') : Inevitable M ok P s

/-- **The rule for what is inevitable**: where the goal has not been reached,
there is a step, and every step reaches it, or keeps the invariant and lowers the
measure. -/
theorem Inevitable.of_measure {I P : σ → Prop} (measure : σ → Nat)
    (hstep : ∀ s a s', I s → ¬ P s → ok s a → M.step s a s' →
      P s' ∨ (I s' ∧ measure s' < measure s))
    (hsome : ∀ s, I s → ¬ P s → ∃ a s', ok s a ∧ M.step s a s') {s : σ} (h : I s) :
    M.Inevitable ok P s := by
  generalize hn : measure s = n
  induction n using Nat.strongRecOn generalizing s with
  | _ n ih =>
    by_cases hp : P s
    · exact .here hp
    · refine .later (hsome s h hp) ?_
      intro a s' hok hst
      rcases hstep s a s' h hp hok hst with hp' | ⟨hi', hlt⟩
      · exact .here hp'
      · rw [hn] at hlt
        exact ih _ hlt hi' rfl

/-- What is inevitable stays so until it has come. -/
theorem Inevitable.next {P : σ → Prop} {s s' : σ} {a : α} (h : M.Inevitable ok P s)
    (hp : ¬ P s) (hok : ok s a) (hst : M.step s a s') : M.Inevitable ok P s' := by
  cases h with
  | here hp' => exact absurd hp' hp
  | later _ hall => exact hall a s' hok hst

/-- What an invariant excludes is not inevitable. -/
theorem Inevitable.not_of_invariant {I P : σ → Prop}
    (hstep : ∀ s a s', I s → ok s a → M.step s a s' → I s') (hnot : ∀ s, I s → ¬ P s) {s : σ}
    (hi : I s) : ¬ M.Inevitable ok P s := by
  intro h
  induction h with
  | here hp => exact hnot _ hi hp
  | later hsome _ ih =>
    obtain ⟨a, s', hok, hst⟩ := hsome
    exact ih a s' hok hst (hstep _ a s' hi hok hst)

/-! ## §4. Steps deleted from a run. -/

/-- The run without the steps that are hidden; this may depend on what follows. -/
def erase (f : σ → α → Option σ) (hidden : σ → List α → Bool) : σ → List α → List α
  | _, [] => []
  | s, a :: as =>
    match f s a with
    | none => []
    | some s' => if hidden s (a :: as) then erase f hidden s' as else a :: erase f hidden s' as

theorem erase_sublist (f : σ → α → Option σ) (hidden : σ → List α → Bool) (s : σ) (as : List α) :
    (erase f hidden s as).Sublist as := by
  induction as generalizing s with
  | nil => exact List.Sublist.refl []
  | cons a as ih =>
    unfold erase
    split
    · exact List.nil_sublist _
    · split
      · exact (ih _).cons a
      · exact (ih _).cons_cons a

/-- **The rule for deleted steps**: the hidden ones do not change the view of the
state, and the others can be made in it. -/
theorem foldlM_erase {f : σ → α → Option σ} {hidden : σ → List α → Bool} {I : σ → Prop}
    (view : σ → List α → σ) (hinv : ∀ s a s', I s → f s a = some s' → I s')
    (hhidden : ∀ s a as s', I s → f s a = some s' → hidden s (a :: as) = true →
      view s (a :: as) = view s' as)
    (hkept : ∀ s a as s', I s → f s a = some s' → hidden s (a :: as) = false →
      f (view s (a :: as)) a = some (view s' as))
    {s s' : σ} (hs : I s) (as : List α) (hrun : as.foldlM f s = some s') :
    (erase f hidden s as).foldlM f (view s as) = some (view s' []) := by
  induction as generalizing s with
  | nil =>
    cases hrun
    rfl
  | cons a as ih =>
    rw [List.foldlM_cons] at hrun
    obtain ⟨s₁, h₁, hrun⟩ := Option.bind_eq_some_iff.mp hrun
    have hrest := ih (hinv s a s₁ hs h₁) hrun
    unfold erase
    rw [h₁]
    dsimp only
    by_cases hhide : hidden s (a :: as) = true
    · rw [if_pos hhide, hhidden s a as s₁ hs h₁ hhide]
      exact hrest
    · rw [if_neg hhide, List.foldlM_cons,
        hkept s a as s₁ hs h₁ (Bool.eq_false_iff.mpr hhide)]
      exact hrest

end TransSys

end WallController.Lib
