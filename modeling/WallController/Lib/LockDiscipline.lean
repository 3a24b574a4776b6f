/-
  WallController.Lib.LockDiscipline
  ────────────────────────────────
  **JUDGEMENTS ABOUT ONE PROGRAM THAT HOLD OF ALL INTERLEAVINGS.**

  `Guarded g view Good p own Q`: in `p` only the owner of the mutex `g` changes
  the view, it unlocks `g` where the view is good, and at the end `Q` holds.
  `own` is the exact view while the thread owns `g`, because then nobody else
  changes it.

  `Orderly rank p held H`: `p` holds at most the mutexes `held`, locks only
  above them, and holds at most `H r` when it ends with `r`.

  Main results:
    * `good_of_reachable`: the view is good whenever `g` is free.
    * `released_of_reachable`: an idle thread owns no mutex.
    * `no_deadlock_of_reachable`: no set of threads is deadlocked.
-/
import WallController.Lib.Concurrent
import Mathlib.Data.Set.Insert
import Mathlib.Order.BooleanAlgebra.Set

namespace WallController.Lib

namespace Prog

variable {σ μ κ ε ρ ρ' α : Type}

/-! ## §1. The view that a mutex guards. -/

section Guarded

variable (g : μ) (view : σ → α) (Good : α → Prop)

/-- The accesses to the view and the operations on its mutex. -/
def Guarded : Prog σ μ κ ε ρ → Option α → (ρ → Option α → Prop) → Prop
  | ret r, own, Q => Q r own
  | access next store, none, Q => ∀ s, view (store s) = view s ∧ Guarded (next s) none Q
  | access next store, some a, Q => ∀ s, view s = a → Guarded (next s) (some (view (store s))) Q
  | init m next, own, Q => m ≠ g ∧ ∀ b, Guarded (next b) own Q
  | lock m next, own, Q =>
      (m = g → own = none ∧ ∀ a, Good a → Guarded (next true) (some a) Q)
      ∧ (m ≠ g → Guarded (next true) own Q)
      ∧ Guarded (next false) own Q
  | unlock m next, own, Q =>
      (m = g → (∃ a, own = some a ∧ Good a) ∧ ∀ b, Guarded (next b) none Q)
      ∧ (m ≠ g → ∀ b, Guarded (next b) own Q)
  | external _ next, own, Q => ∀ e, Guarded (next e) own Q

variable {g view Good} {p : Prog σ μ κ ε ρ} {own : Option α} {Q : ρ → Option α → Prop}

/-- **Sequencing.** -/
theorem Guarded.bind {f : ρ → Prog σ μ κ ε ρ'} {Q' : ρ' → Option α → Prop}
    (h : p.Guarded g view Good own Q)
    (hf : ∀ r own, Q r own → (f r).Guarded g view Good own Q') :
    (p >>= f).Guarded g view Good own Q' := by
  induction p generalizing own with
  | ret r => exact hf r own h
  | access next store ih =>
      cases own with
      | none => exact fun s => ⟨(h s).1, ih s (h s).2⟩
      | some a => exact fun s hs => ih s (h s hs)
  | init m next ih => exact ⟨h.1, fun b => ih b (h.2 b)⟩
  | lock m next ih =>
      obtain ⟨hself, hother, hfails⟩ := h
      exact ⟨fun hm => ⟨(hself hm).1, fun a ha => ih true ((hself hm).2 a ha)⟩,
        fun hm => ih true (hother hm), ih false hfails⟩
  | unlock m next ih =>
      obtain ⟨hself, hother⟩ := h
      exact ⟨fun hm => ⟨(hself hm).1, fun b => ih b ((hself hm).2 b)⟩,
        fun hm b => ih b (hother hm b)⟩
  | external q next ih => exact fun e => ih e (h e)

/-- Sequencing, where it is known what the thread owns in between. -/
theorem Guarded.bind_eq {f : ρ → Prog σ μ κ ε ρ'} {own' : Option α} {Q' : ρ' → Option α → Prop}
    (h : p.Guarded g view Good own fun _ o => o = own')
    (hf : ∀ r, (f r).Guarded g view Good own' Q') : (p >>= f).Guarded g view Good own Q' :=
  h.bind fun r _ ho => ho ▸ hf r

/-! ### The rules. -/

/-- A read by the owner. -/
theorem guarded_read_some {a : α} {f : σ → ρ} (h : ∀ s, view s = a → Q (f s) (some a)) :
    (read f : Prog σ μ κ ε ρ).Guarded g view Good (some a) Q := by
  intro s hs
  subst hs
  exact h s rfl

/-- A read by any thread. -/
theorem guarded_read {f : σ → ρ} (h : ∀ s, Q (f s) own) :
    (read f : Prog σ μ κ ε ρ).Guarded g view Good own Q := by
  cases own with
  | none => exact fun s => ⟨rfl, h s⟩
  | some a => exact guarded_read_some fun s _ => h s

/-- A write by the owner. -/
theorem guarded_write_some {a : α} {f : σ → σ} {Q : Unit → Option α → Prop}
    (h : ∀ s, view s = a → Q () (some (view (f s)))) :
    (write f : Prog σ μ κ ε Unit).Guarded g view Good (some a) Q := h

/-- A write beside the view. -/
theorem guarded_write {f : σ → σ} {Q : Unit → Option α → Prop} (hf : ∀ s, view (f s) = view s)
    (h : Q () own) : (write f : Prog σ μ κ ε Unit).Guarded g view Good own Q := by
  cases own with
  | none => exact fun s => ⟨hf s, h⟩
  | some a =>
      intro s hs
      show Q () (some (view (f s)))
      rw [hf s, hs]
      exact h

theorem guarded_mutexInit {m : μ} {Q : Bool → Option α → Prop} (hm : m ≠ g) (h : ∀ b, Q b own) :
    (mutexInit m : Prog σ μ κ ε Bool).Guarded g view Good own Q := ⟨hm, h⟩

theorem guarded_mutexLock_self {Q : Bool → Option α → Prop} (h : ∀ a, Good a → Q true (some a))
    (hfails : Q false none) :
    (mutexLock g : Prog σ μ κ ε Bool).Guarded g view Good none Q :=
  ⟨fun _ => ⟨rfl, h⟩, fun hm => absurd rfl hm, hfails⟩

theorem guarded_mutexLock {m : μ} {Q : Bool → Option α → Prop} (hm : m ≠ g) (h : ∀ b, Q b own) :
    (mutexLock m : Prog σ μ κ ε Bool).Guarded g view Good own Q :=
  ⟨fun hg => absurd hg hm, fun _ => h true, h false⟩

theorem guarded_mutexUnlock_self {a : α} {Q : Bool → Option α → Prop} (ha : Good a)
    (h : ∀ b, Q b none) :
    (mutexUnlock g : Prog σ μ κ ε Bool).Guarded g view Good (some a) Q :=
  ⟨fun _ => ⟨⟨a, rfl, ha⟩, h⟩, fun hm => absurd rfl hm⟩

theorem guarded_mutexUnlock {m : μ} {Q : Bool → Option α → Prop} (hm : m ≠ g) (h : ∀ b, Q b own) :
    (mutexUnlock m : Prog σ μ κ ε Bool).Guarded g view Good own Q :=
  ⟨fun hg => absurd hg hm, fun _ => h⟩

theorem guarded_call {q : κ} {Q : ε → Option α → Prop} (h : ∀ e, Q e own) :
    (call q : Prog σ μ κ ε ε).Guarded g view Good own Q := h

end Guarded

/-! ## §2. The order of the locks. -/

section Orderly

variable (rank : μ → Nat)

/-- The operations on the mutexes. -/
def Orderly : Prog σ μ κ ε ρ → Set μ → (ρ → Set μ) → Prop
  | ret r, held, H => held ⊆ H r
  | access next _, held, H => ∀ s, Orderly (next s) held H
  | init _ next, held, H => ∀ b, Orderly (next b) held H
  | lock m next, held, H =>
      (∀ m' ∈ held, rank m' < rank m) ∧ Orderly (next true) (insert m held) H
      ∧ Orderly (next false) held H
  | unlock m next, held, H => ∀ b, Orderly (next b) (held \ {m}) H
  | external _ next, held, H => ∀ e, Orderly (next e) held H

variable {rank} {p : Prog σ μ κ ε ρ} {held held' : Set μ} {H H' : ρ → Set μ}

/-- Fewer mutexes. -/
theorem Orderly.anti (h : p.Orderly rank held H) (hsub : held' ⊆ held) :
    p.Orderly rank held' H := by
  induction p generalizing held held' with
  | ret r => exact hsub.trans h
  | access next store ih => exact fun s => ih s (h s) hsub
  | init m next ih => exact fun b => ih b (h b) hsub
  | lock m next ih =>
      obtain ⟨habove, htaken, hfails⟩ := h
      exact ⟨fun m' hm' => habove m' (hsub hm'), ih true htaken (Set.insert_subset_insert hsub),
        ih false hfails hsub⟩
  | unlock m next ih => exact fun b => ih b (h b) (Set.sdiff_subset_sdiff_left hsub)
  | external q next ih => exact fun e => ih e (h e) hsub

/-- **Sequencing.** -/
theorem Orderly.bind {f : ρ → Prog σ μ κ ε ρ'} {H' : ρ' → Set μ} (h : p.Orderly rank held H)
    (hf : ∀ r, (f r).Orderly rank (H r) H') : (p >>= f).Orderly rank held H' := by
  induction p generalizing held with
  | ret r => exact (hf r).anti h
  | access next store ih => exact fun s => ih s (h s)
  | init m next ih => exact fun b => ih b (h b)
  | lock m next ih =>
      obtain ⟨habove, htaken, hfails⟩ := h
      exact ⟨habove, ih true htaken, ih false hfails⟩
  | unlock m next ih => exact fun b => ih b (h b)
  | external q next ih => exact fun e => ih e (h e)

/-- More mutexes at the end. -/
theorem Orderly.mono (h : p.Orderly rank held H) (hsub : ∀ r, H r ⊆ H' r) :
    p.Orderly rank held H' := by
  rw [← bind_ret p]
  exact h.bind hsub

/-! ### The rules. -/

theorem orderly_pure {r : ρ} (h : held ⊆ H r) :
    (pure r : Prog σ μ κ ε ρ).Orderly rank held H := h

theorem orderly_read {f : σ → ρ} : (read f : Prog σ μ κ ε ρ).Orderly rank held fun _ => held :=
  fun _ => subset_rfl

theorem orderly_write {f : σ → σ} :
    (write f : Prog σ μ κ ε Unit).Orderly rank held fun _ => held :=
  fun _ => subset_rfl

theorem orderly_mutexInit {m : μ} :
    (mutexInit m : Prog σ μ κ ε Bool).Orderly rank held fun _ => held :=
  fun _ => subset_rfl

theorem orderly_mutexLock {m : μ} (h : ∀ m' ∈ held, rank m' < rank m) :
    (mutexLock m : Prog σ μ κ ε Bool).Orderly rank held
      fun b => if b then insert m held else held :=
  ⟨h, subset_rfl, subset_rfl⟩

theorem orderly_mutexUnlock {m : μ} :
    (mutexUnlock m : Prog σ μ κ ε Bool).Orderly rank held fun _ => held \ {m} :=
  fun _ => subset_rfl

theorem orderly_call {q : κ} :
    (call q : Prog σ μ κ ε ε).Orderly rank held fun _ => held :=
  fun _ => subset_rfl

end Orderly

end Prog

namespace Threads

variable {ι σ μ κ ε ρ χ α : Type} [DecidableEq μ]
  {s s' : Threads ι σ μ κ ε ρ} {t u : ι} {p : Prog σ μ κ ε ρ}
  {program : χ → Prog σ μ κ ε ρ} {init : σ → Prop}

/-! ## §3. All threads: the order of the locks. -/

/-- The mutexes of a thread. -/
def owned (s : Threads ι σ μ κ ε ρ) (t : ι) : Set μ := {m | (s.mutexes m).owner = some t}

/-- The invariant: each thread is at an orderly program for the mutexes it owns. -/
structure AllOrderly (rank : μ → Nat) (s : Threads ι σ μ κ ε ρ) : Prop where
  plain : ∀ m, (s.mutexes m).Plain
  orderly : ∀ t, (s.pc t).Orderly rank (s.owned t) fun _ => ∅

/-- The change of a mutex that nobody gains. -/
theorem owned_put_subset {m : μ} {x : Mutex ι}
    (h : ∀ u, x.owner = some u → (s.mutexes m).owner = some u) :
    (s.put m x).owned u ⊆ s.owned u := by
  intro m' hm'
  by_cases hm : m' = m
  · subst hm
    have hx : ((s.put m' x).mutexes m').owner = some u := hm'
    rw [put_mutexes_self] at hx
    exact h u hx
  · have hx : ((s.put m x).mutexes m').owner = some u := hm'
    rw [put_mutexes_of_ne hm] at hx
    exact hx

theorem plain_put {m : μ} {x : Mutex ι} (hs : ∀ m, (s.mutexes m).Plain) (hx : x.Plain) (m' : μ) :
    ((s.put m x).mutexes m').Plain := by
  by_cases hm : m' = m
  · subst hm
    rw [put_mutexes_self]
    exact hx
  · rw [put_mutexes_of_ne hm]
    exact hs m'

/-- The lock of a mutex that is free. -/
theorem owned_put_heldBy {m : μ} (hfree : s.mutexes m = .free) :
    (s.put m (.heldBy t)).owned t ⊆ insert m (s.owned t)
      ∧ ∀ u, u ≠ t → (s.put m (.heldBy t)).owned u ⊆ s.owned u := by
  have hother : ∀ u m', m' ∈ (s.put m (.heldBy t)).owned u → m' ≠ m → m' ∈ s.owned u := by
    intro u m' hm' hne
    have hx : ((s.put m (.heldBy t)).mutexes m').owner = some u := hm'
    rw [put_mutexes_of_ne hne] at hx
    exact hx
  constructor
  · intro m' hm'
    by_cases hm : m' = m
    · exact Or.inl hm
    · exact Or.inr (hother t m' hm' hm)
  · intro u hu m' hm'
    by_cases hm : m' = m
    · subst hm
      have hx : ((s.put m' (.heldBy t)).mutexes m').owner = some u := hm'
      rw [put_mutexes_self] at hx
      exact absurd (Option.some.inj hx).symm hu
    · exact hother u m' hm' hm

variable [DecidableEq ι] {rank : μ → Nat}

/-- What a step does to the mutexes: they stay plain, the other threads do not
gain any, and the thread is at an orderly program for its own. -/
theorem NextStep.orderly (hs : ∀ m, (s.mutexes m).Plain) (h : NextStep s t p s')
    (hp : p.Orderly rank (s.owned t) fun _ => ∅) :
    (∀ m, (s'.mutexes m).Plain) ∧ (∀ u, u ≠ t → s'.owned u ⊆ s.owned u)
      ∧ (s'.pc t).Orderly rank (s'.owned t) fun _ => ∅ := by
  cases h with
  | access =>
      refine ⟨hs, fun u _ => subset_rfl, ?_⟩
      rw [goOn_pc_self]
      exact hp s.mem
  | @init m next =>
      have hsub : ∀ u, (s.put m .free).owned u ⊆ s.owned u :=
        fun u => owned_put_subset fun u hu => by cases hu
      refine ⟨plain_put hs .free, fun u _ => hsub u, ?_⟩
      rw [goOn_pc_self]
      exact (hp true).anti (hsub t)
  | initFails =>
      refine ⟨hs, fun u _ => subset_rfl, ?_⟩
      rw [goOn_pc_self]
      exact hp false
  | @lock m next x hx =>
      obtain ⟨habove, htaken, -⟩ := hp
      -- the thread does not own the mutex, or it would lie above itself
      have hne : (s.mutexes m).owner ≠ some t := fun howner => Nat.lt_irrefl _ (habove m howner)
      obtain ⟨hfree, rfl⟩ := (hs m).lock hne hx
      obtain ⟨hown, hothers⟩ := owned_put_heldBy (t := t) hfree
      refine ⟨plain_put hs (Or.inr ⟨t, rfl⟩), hothers, ?_⟩
      rw [goOn_pc_self]
      exact htaken.anti hown
  | lockFails =>
      obtain ⟨-, -, hfails⟩ := hp
      refine ⟨hs, fun u _ => subset_rfl, ?_⟩
      rw [goOn_pc_self]
      exact hfails
  | @unlock m next b =>
      have hsub : ∀ u, (s.put m ((s.mutexes m).unlock t)).owned u ⊆ s.owned u :=
        fun u => owned_put_subset fun u hu => (Mutex.owner_unlock (hs m) hu).1
      refine ⟨plain_put hs (hs m).unlock, fun u _ => hsub u, ?_⟩
      rw [goOn_pc_self]
      refine (hp b).anti fun m' hm' => ⟨hsub t hm', ?_⟩
      rintro rfl
      have hx : ((s.put m' ((s.mutexes m').unlock t)).mutexes m').owner = some t := hm'
      rw [put_mutexes_self] at hx
      exact (Mutex.owner_unlock (hs m') hx).2 rfl
  | external e =>
      refine ⟨hs, fun u _ => subset_rfl, ?_⟩
      rw [goOn_pc_self]
      exact hp e

/-- The step lemma. -/
theorem AllOrderly.step (hprogram : ∀ c, (program c).Orderly rank ∅ fun _ => ∅)
    (hs : s.AllOrderly rank) {l : ThreadLabel ι χ ε} (h : s.step program l = some s') :
    s'.AllOrderly rank := by
  rcases step_cases h with ⟨t, c, r, hidle, rfl⟩ | ⟨t, hnext⟩
  · refine ⟨hs.plain, fun u => ?_⟩
    by_cases hu : u = t
    · subst hu
      have hnone := hs.orderly u
      rw [hidle] at hnone
      rw [goOn_pc_self]
      exact (hprogram c).anti hnone
    · rw [goOn_pc_of_ne hu]
      exact hs.orderly u
  · obtain ⟨hplain, hothers, hself⟩ := hnext.orderly hs.plain (hs.orderly t)
    refine ⟨hplain, fun u => ?_⟩
    by_cases hu : u = t
    · subst hu
      exact hself
    · rw [hnext.pc_of_ne hu]
      exact (hs.orderly u).anti (hothers u hu)

theorem allOrderly_of_reachable (hprogram : ∀ c, (program c).Orderly rank ∅ fun _ => ∅)
    (h : (system (ι := ι) program init).Reachable s) : s.AllOrderly rank := by
  refine TransSys.Reachable.invariant ?_ ?_ h
  · rintro s ⟨-, hfree, hidle⟩
    refine ⟨fun m => hfree m ▸ .free, fun t => ?_⟩
    obtain ⟨r, hr⟩ := hidle t
    rw [hr]
    intro m hm
    have hm : (s.mutexes m).owner = some t := hm
    rw [hfree m] at hm
    cases hm
  · intro s l s' hs hstep
    exact hs.step hprogram hstep

/-- An idle thread owns no mutex. -/
theorem released_of_reachable (hprogram : ∀ c, (program c).Orderly rank ∅ fun _ => ∅)
    (h : (system program init).Reachable s) {r : ρ} (hidle : s.pc t = .ret r) (m : μ) :
    (s.mutexes m).owner ≠ some t := by
  intro howner
  have hnone := (allOrderly_of_reachable hprogram h).orderly t
  rw [hidle] at hnone
  exact hnone howner

/-- **No deadlock**: no set of threads waits for each other's mutexes. -/
theorem no_deadlock_of_reachable (hprogram : ∀ c, (program c).Orderly rank ∅ fun _ => ∅)
    {n : Nat} (hbound : ∀ m, rank m ≤ n) (h : (system program init).Reachable s) (S : Set ι) :
    ¬ Deadlock (fun m => (s.mutexes m).owner) (fun t => (s.pc t).waits) S := by
  refine not_deadlock rank n hbound ?_ S
  intro t m m' howner hwaits
  have horderly := (allOrderly_of_reachable hprogram h).orderly t
  generalize s.pc t = p at hwaits horderly
  cases p with
  | lock m'' next =>
      obtain rfl : m'' = m' := Option.some.inj hwaits
      exact horderly.1 m howner
  | _ => cases hwaits

/-! ## §4. All threads: the guarded view. -/

section Guarded

variable {g : μ} {view : σ → α} {Good : α → Prop}

/-- The view while the thread owns the mutex of the view. -/
def ownView (g : μ) (view : σ → α) (s : Threads ι σ μ κ ε ρ) (t : ι) : Option α :=
  if (s.mutexes g).owner = some t then some (view s.mem) else none

/-- The invariant: each thread is at a guarded program. -/
structure AllGuarded (g : μ) (view : σ → α) (Good : α → Prop) (s : Threads ι σ μ κ ε ρ) : Prop where
  plain : (s.mutexes g).Plain
  good : (s.mutexes g).owner = none → Good (view s.mem)
  guarded : ∀ t, (s.pc t).Guarded g view Good (ownView g view s t) fun _ own => own = none

omit [DecidableEq μ] in
theorem ownView_self (h : (s.mutexes g).owner = some t) :
    ownView g view s t = some (view s.mem) := if_pos h

omit [DecidableEq μ] in
theorem ownView_of_ne (h : (s.mutexes g).owner ≠ some t) : ownView g view s t = none := if_neg h

omit [DecidableEq μ] in
/-- Where neither the mutex nor the view changes. -/
theorem ownView_congr (hmutex : s'.mutexes g = s.mutexes g) (hview : view s'.mem = view s.mem)
    (u : ι) : ownView g view s' u = ownView g view s u := by
  unfold ownView
  rw [hmutex, hview]

/-- The facts about a step of `t`, from which the invariant follows. -/
structure KeepsGuard (g : μ) (view : σ → α) (Good : α → Prop) (s s' : Threads ι σ μ κ ε ρ)
    (t : ι) : Prop where
  plain : (s'.mutexes g).Plain
  good : (s'.mutexes g).owner = none → Good (view s'.mem)
  others : ∀ u, u ≠ t → ownView g view s' u = ownView g view s u
  self : (s'.pc t).Guarded g view Good (ownView g view s' t) fun _ own => own = none

omit [DecidableEq μ] in
/-- A step beside the mutex and the view. -/
theorem AllGuarded.beside (hs : s.AllGuarded g view Good) (hmutex : s'.mutexes g = s.mutexes g)
    (hview : view s'.mem = view s.mem)
    (hself : (s'.pc t).Guarded g view Good (ownView g view s t) fun _ own => own = none) :
    KeepsGuard g view Good s s' t where
  plain := hmutex ▸ hs.plain
  good := by
    rw [hmutex, hview]
    exact hs.good
  others u _ := ownView_congr hmutex hview u
  self := by
    rw [ownView_congr hmutex hview]
    exact hself

/-- A step, by the kinds of steps. -/
theorem NextStep.guarded (hs : s.AllGuarded g view Good) (h : NextStep s t p s')
    (hp : p.Guarded g view Good (ownView g view s t) fun _ own => own = none) :
    KeepsGuard g view Good s s' t := by
  cases h with
  | @access next store =>
      -- an access under the mutex changes the owner's view only
      by_cases howner : (s.mutexes g).owner = some t
      · rw [ownView_self howner] at hp
        have hself : ownView g view ({ s with mem := store s.mem }.goOn t (next s.mem)) t
            = some (view (store s.mem)) := ownView_self howner
        refine ⟨hs.plain, fun hnone => ?_, fun u hu => ?_, ?_⟩
        · have hnone : (s.mutexes g).owner = none := hnone
          rw [howner] at hnone
          cases hnone
        · have hne : (s.mutexes g).owner ≠ some u := by
            rw [howner]
            exact fun htu => hu (Option.some.inj htu).symm
          rw [ownView_of_ne hne]
          exact ownView_of_ne hne
        · rw [goOn_pc_self, hself]
          exact hp s.mem rfl
      · rw [ownView_of_ne howner] at hp
        -- an access without the mutex keeps the view
        obtain ⟨hview, hnext⟩ := hp s.mem
        refine hs.beside rfl hview ?_
        rw [goOn_pc_self, ownView_of_ne howner]
        exact hnext
  | @init m next =>
      obtain ⟨hm, hnext⟩ := hp
      refine hs.beside (put_mutexes_of_ne hm.symm) rfl ?_
      rw [goOn_pc_self]
      exact hnext true
  | initFails =>
      refine hs.beside rfl rfl ?_
      rw [goOn_pc_self]
      exact hp.2 false
  | @lock m next x hx =>
      obtain ⟨hself, hother, -⟩ := hp
      -- the mutex of the guard is taken: the thread starts from a good view
      by_cases hm : m = g
      · subst hm
        obtain ⟨hnone, htaken⟩ := hself rfl
        have hne : (s.mutexes m).owner ≠ some t := by
          intro howner
          rw [ownView_self howner] at hnone
          cases hnone
        -- a plain mutex that is locked was free
        obtain ⟨hfree, rfl⟩ := hs.plain.lock hne hx
        have howner : ((s.put m (.heldBy t)).mutexes m).owner = some t := by
          rw [put_mutexes_self]
          rfl
        refine ⟨?_, fun hnone => ?_, fun u hu => ?_, ?_⟩
        · rw [goOn_mutexes, put_mutexes_self]
          exact Or.inr ⟨t, rfl⟩
        · rw [goOn_mutexes, howner] at hnone
          cases hnone
        · have hne' : ((s.put m (.heldBy t)).mutexes m).owner ≠ some u := by
            rw [howner]
            exact fun htu => hu (Option.some.inj htu).symm
          have hfree' : (s.mutexes m).owner ≠ some u := by
            rw [hfree]
            exact fun h => by cases h
          rw [ownView_of_ne hfree']
          exact ownView_of_ne hne'
        · have hview : ownView m view ((s.put m (.heldBy t)).goOn t (next true)) t
              = some (view s.mem) := ownView_self howner
          rw [goOn_pc_self, hview]
          exact htaken _ (hs.good (by rw [hfree]; rfl))
      · refine hs.beside (put_mutexes_of_ne (Ne.symm hm)) rfl ?_
        -- another mutex has nothing to do with the view
        rw [goOn_pc_self]
        exact hother hm
  | lockFails =>
      refine hs.beside rfl rfl ?_
      rw [goOn_pc_self]
      exact hp.2.2
  | @unlock m next b =>
      obtain ⟨hself, hother⟩ := hp
      by_cases hm : m = g
      · subst hm
        -- the mutex of the guard is given back: the owner leaves a good view
        obtain ⟨⟨a, hown, hgood⟩, hnext⟩ := hself rfl
        have howner : (s.mutexes m).owner = some t := by
          by_contra hne
          rw [ownView_of_ne hne] at hown
          cases hown
        rw [ownView_self howner] at hown
        obtain rfl : view s.mem = a := Option.some.inj hown
        have hfree : (s.put m ((s.mutexes m).unlock t)).mutexes m = .free := by
          rw [put_mutexes_self]
          exact hs.plain.unlock_owner howner
        have hnone : ∀ u, ownView m view ((s.put m ((s.mutexes m).unlock t)).goOn t (next b)) u
            = none := by
          intro u
          refine ownView_of_ne ?_
          rw [goOn_mutexes, hfree]
          exact fun h => by cases h
        refine ⟨?_, fun _ => hgood, fun u hu => ?_, ?_⟩
        · rw [goOn_mutexes, hfree]
          exact .free
        · have hne : (s.mutexes m).owner ≠ some u := by
            rw [howner]
            exact fun htu => hu (Option.some.inj htu).symm
          rw [hnone u, ownView_of_ne hne]
        · rw [goOn_pc_self, hnone t]
          exact hnext b
      · refine hs.beside (put_mutexes_of_ne (Ne.symm hm)) rfl ?_
        -- another mutex has nothing to do with the view
        rw [goOn_pc_self]
        exact hother hm b
  | external e =>
      refine hs.beside rfl rfl ?_
      rw [goOn_pc_self]
      exact hp e

/-- The step lemma. -/
theorem AllGuarded.step
    (hprogram : ∀ c, (program c).Guarded g view Good none fun _ own => own = none)
    (hs : s.AllGuarded g view Good) {l : ThreadLabel ι χ ε} (h : s.step program l = some s') :
    s'.AllGuarded g view Good := by
  rcases step_cases h with ⟨t, c, r, hidle, rfl⟩ | ⟨t, hnext⟩
  · refine ⟨hs.plain, hs.good, fun u => ?_⟩
    have hown : ownView g view (s.goOn t (program c)) u = ownView g view s u := rfl
    rw [hown]
    by_cases hu : u = t
    · subst hu
      have hnone := hs.guarded u
      rw [hidle] at hnone
      have hnone : ownView g view s u = none := hnone
      rw [goOn_pc_self, hnone]
      exact hprogram c
    · rw [goOn_pc_of_ne hu]
      exact hs.guarded u
  · have hkeeps := hnext.guarded hs (hs.guarded t)
    refine ⟨hkeeps.plain, hkeeps.good, fun u => ?_⟩
    by_cases hu : u = t
    · subst hu
      exact hkeeps.self
    · rw [hnext.pc_of_ne hu, hkeeps.others u hu]
      exact hs.guarded u

/-- **The view is good whenever its mutex is free.** -/
theorem good_of_reachable
    (hprogram : ∀ c, (program c).Guarded g view Good none fun _ own => own = none)
    (hinit : ∀ m, init m → Good (view m)) (h : (system (ι := ι) program init).Reachable s)
    (hfree : (s.mutexes g).owner = none) : Good (view s.mem) := by
  have hall : s.AllGuarded g view Good := by
    refine TransSys.Reachable.invariant ?_ ?_ h
    · rintro s ⟨hmem, hmutexes, hidle⟩
      refine ⟨hmutexes g ▸ .free, fun _ => hinit _ hmem, fun t => ?_⟩
      obtain ⟨r, hr⟩ := hidle t
      rw [hr]
      refine ownView_of_ne ?_
      rw [hmutexes g]
      exact fun h => by cases h
    · intro s l s' hs hstep
      exact hs.step hprogram hstep
  exact hall.good hfree

end Guarded

end Threads
end WallController.Lib
