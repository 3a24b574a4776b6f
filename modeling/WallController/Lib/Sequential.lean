/-
  WallController.Lib.Sequential
  ────────────────────────────────
  **ONE PROGRAM ALONE.**

  The result of a program that no other thread disturbs, as a function of what
  it meets: which operations on a mutex succeed and how its calls are answered.
  It is one of the runs of the threads (`exec_run`), so what holds of it is not
  a second meaning of programs.

  A program over a memory is a program over any memory that contains the first
  one (`lift`).
-/
import WallController.Lib.Concurrent
import Mathlib.Data.List.Count

namespace WallController.Lib

namespace Prog

variable {σ τ μ κ ε ρ ρ' : Type}

/-! ## §1. The execution. -/

/-- What a program meets: which initialisations and locks succeed, and the answers. -/
structure Outcomes (μ κ ε : Type) where
  init : μ → Bool
  lock : μ → Bool
  answer : κ → ε

/-- The memory, and the locks that the thread has taken and not released. -/
structure Alone (σ μ : Type) where
  mem : σ
  held : List μ

variable [DecidableEq μ] (o : Outcomes μ κ ε)

/-- The execution of a program to its end. -/
def exec : Prog σ μ κ ε ρ → Alone σ μ → ρ × Alone σ μ
  | ret r, s => (r, s)
  | access next store, s => (next s.mem).exec { s with mem := store s.mem }
  | init m next, s =>
      if o.init m then (next true).exec { s with held := s.held.filter (· ≠ m) }
      else (next false).exec s
  | lock m next, s =>
      if o.lock m then (next true).exec { s with held := m :: s.held } else (next false).exec s
  | unlock m next, s => (next (decide (m ∈ s.held))).exec { s with held := s.held.erase m }
  | external q next, s => (next (o.answer q)).exec s

variable {o} {s : Alone σ μ} {p : Prog σ μ κ ε ρ}

theorem exec_init {m : μ} {next : Bool → Prog σ μ κ ε ρ} :
    (init m next).exec o s = if o.init m then
      (next true).exec o { s with held := s.held.filter (· ≠ m) } else (next false).exec o s := rfl

theorem exec_lock {m : μ} {next : Bool → Prog σ μ κ ε ρ} :
    (lock m next).exec o s = if o.lock m then (next true).exec o { s with held := m :: s.held }
      else (next false).exec o s := rfl

/-- **Sequencing.** -/
theorem exec_bind (f : ρ → Prog σ μ κ ε ρ') :
    (p >>= f).exec o s = (f (p.exec o s).1).exec o (p.exec o s).2 := by
  induction p generalizing s with
  | ret r => rfl
  | access next store ih => exact ih s.mem
  | init m next ih =>
      show (init m fun b => (next b).bind f).exec o s = _
      rw [exec_init, exec_init]
      split
      · exact ih true
      · exact ih false
  | lock m next ih =>
      show (lock m fun b => (next b).bind f).exec o s = _
      rw [exec_lock, exec_lock]
      split
      · exact ih true
      · exact ih false
  | unlock m next ih => exact ih _
  | external q next ih => exact ih (o.answer q)

/-- Sequencing after a program whose execution is known. -/
theorem exec_bind_of {r : ρ} {s' : Alone σ μ} (h : p.exec o s = (r, s'))
    (f : ρ → Prog σ μ κ ε ρ') : (p >>= f).exec o s = (f r).exec o s' := by
  rw [exec_bind, h]

theorem exec_pure {r : ρ} : (pure r : Prog σ μ κ ε ρ).exec o s = (r, s) := rfl

theorem exec_read {f : σ → ρ} : (read f : Prog σ μ κ ε ρ).exec o s = (f s.mem, s) := rfl

theorem exec_write {f : σ → σ} :
    (write f : Prog σ μ κ ε Unit).exec o s = ((), { s with mem := f s.mem }) := rfl

theorem exec_call {q : κ} : (call q : Prog σ μ κ ε ε).exec o s = (o.answer q, s) := rfl

theorem exec_mutexUnlock {m : μ} : (mutexUnlock m : Prog σ μ κ ε Bool).exec o s
    = (decide (m ∈ s.held), { s with held := s.held.erase m }) := rfl

theorem exec_mutexLock_ok {m : μ} (h : o.lock m = true) :
    (mutexLock m : Prog σ μ κ ε Bool).exec o s = (true, { s with held := m :: s.held }) :=
  if_pos h

theorem exec_mutexLock_fails {m : μ} (h : ¬ o.lock m = true) :
    (mutexLock m : Prog σ μ κ ε Bool).exec o s = (false, s) := if_neg h

theorem exec_mutexInit_ok {m : μ} (h : o.init m = true) :
    (mutexInit m : Prog σ μ κ ε Bool).exec o s
      = (true, { s with held := s.held.filter (· ≠ m) }) := if_pos h

theorem exec_mutexInit_fails {m : μ} (h : ¬ o.init m = true) :
    (mutexInit m : Prog σ μ κ ε Bool).exec o s = (false, s) := if_neg h

/-! ## §2. A part of the memory. -/

section Lift

variable (get : τ → σ) (put : τ → σ → τ)

/-- A program over a part of the memory. -/
def lift : Prog σ μ κ ε ρ → Prog τ μ κ ε ρ
  | ret r => ret r
  | access next store => access (fun t => (next (get t)).lift) fun t => put t (store (get t))
  | init m next => init m fun b => (next b).lift
  | lock m next => lock m fun b => (next b).lift
  | unlock m next => unlock m fun b => (next b).lift
  | external q next => external q fun e => (next e).lift

omit [DecidableEq μ] in
/-- Sequencing. -/
theorem lift_bind (p : Prog σ μ κ ε ρ) (f : ρ → Prog σ μ κ ε ρ') :
    (p >>= f).lift get put = (p.lift get put >>= fun r => (f r).lift get put) := by
  induction p with
  | ret r => rfl
  | access next store ih => exact congrArg (access · _) (funext fun t => ih (get t))
  | init m next ih => exact congrArg (init m) (funext ih)
  | lock m next ih => exact congrArg (lock m) (funext ih)
  | unlock m next ih => exact congrArg (unlock m) (funext ih)
  | external q next ih => exact congrArg (external q) (funext ih)

/-- The part and the rest. -/
structure IsPart : Prop where
  get_put : ∀ t s, get (put t s) = s
  put_put : ∀ t s s', put (put t s) s' = put t s'
  put_get : ∀ t, put t (get t) = t

variable {get put}

/-- A lifted program does to the part what the program does, and nothing to the rest. -/
theorem exec_lift (hpart : IsPart get put) (p : Prog σ μ κ ε ρ) (t : τ) (held : List μ) :
    (p.lift get put).exec o ⟨t, held⟩ = ((p.exec o ⟨get t, held⟩).1,
      ⟨put t (p.exec o ⟨get t, held⟩).2.mem, (p.exec o ⟨get t, held⟩).2.held⟩) := by
  induction p generalizing t held with
  | ret r =>
      show (r, (⟨t, held⟩ : Alone τ μ)) = (r, ⟨put t (get t), held⟩)
      rw [hpart.put_get]
  | access next store ih =>
      show ((next (get t)).lift get put).exec o ⟨put t (store (get t)), held⟩ = _
      rw [ih, hpart.get_put, hpart.put_put]
      rfl
  | init m next ih =>
      show (init m fun b => (next b).lift get put).exec o ⟨t, held⟩ = _
      rw [exec_init, exec_init]
      split
      · exact ih true t _
      · exact ih false t _
  | lock m next ih =>
      show (lock m fun b => (next b).lift get put).exec o ⟨t, held⟩ = _
      rw [exec_lock, exec_lock]
      split
      · exact ih true t _
      · exact ih false t _
  | unlock m next ih => exact ih _ t _
  | external q next ih => exact ih _ t _

end Lift

end Prog

/-! ## §3. The execution is a run of the threads. -/

namespace Threads

open Prog (Alone Outcomes exec)

variable {ι σ μ κ ε ρ χ : Type}

/-- The mutex of which a thread has taken so many locks. -/
def counted (t : ι) (n : Nat) : Mutex ι := if n = 0 then .free else ⟨some t, n⟩

theorem counted_zero (t : ι) : counted t 0 = .free := if_pos rfl

theorem counted_succ (t : ι) (n : Nat) : counted t (n + 1) = ⟨some t, n + 1⟩ :=
  if_neg (Nat.succ_ne_zero n)

theorem owner_counted (t : ι) (n : Nat) : (counted t n).owner = some t ↔ 0 < n := by
  cases n with
  | zero => exact ⟨fun h => (nomatch h), fun h => absurd h (Nat.lt_irrefl 0)⟩
  | succ n =>
      rw [counted_succ]
      exact ⟨fun _ => Nat.succ_pos n, fun _ => rfl⟩

variable [DecidableEq ι] [DecidableEq μ]

theorem lock_counted (t : ι) (n : Nat) : (counted t n).lock t = some (counted t (n + 1)) := by
  cases n with
  | zero => exact if_pos (Or.inl rfl)
  | succ n =>
      rw [counted_succ, counted_succ]
      exact if_pos (Or.inr rfl)

theorem unlock_counted (t : ι) (n : Nat) : (counted t n).unlock t = counted t (n - 1) := by
  cases n with
  | zero => exact Mutex.unlock_of_ne fun h => nomatch h
  | succ n =>
      rw [counted_succ]
      unfold Mutex.unlock
      rw [if_pos rfl]
      cases n with
      | zero => exact if_neg (Nat.lt_irrefl 1)
      | succ n =>
          rw [if_pos (by omega : n + 1 + 1 > 1)]
          exact (counted_succ t n).symm

/-- The thread stands at a program with the memory and the locks of an execution, and
nobody else holds a mutex. -/
structure At (s : Threads ι σ μ κ ε ρ) (t : ι) (p : Prog σ μ κ ε ρ) (a : Alone σ μ) : Prop where
  mem : s.mem = a.mem
  mutexes : ∀ m, s.mutexes m = counted t (a.held.count m)
  pc : s.pc t = p

variable {s : Threads ι σ μ κ ε ρ} {t : ι} {p : Prog σ μ κ ε ρ} {a : Alone σ μ}

/-- The change of one mutex. -/
theorem At.put (h : s.At t p a) {m : μ} {held : List μ} {x : Mutex ι}
    (hx : x = counted t (held.count m)) (hothers : ∀ m', m' ≠ m → held.count m' = a.held.count m')
    (q : Prog σ μ κ ε ρ) : ((s.put m x).goOn t q).At t q ⟨a.mem, held⟩ := by
  refine ⟨h.mem, fun m' => ?_, goOn_pc_self⟩
  rw [goOn_mutexes]
  by_cases hm : m' = m
  · rw [hm, put_mutexes_self]
    exact hx
  · rw [put_mutexes_of_ne hm, h.mutexes m']
    exact congrArg (counted t) (hothers m' hm).symm

theorem At.goOn (h : s.At t p a) (q : Prog σ μ κ ε ρ) : (s.goOn t q).At t q a :=
  ⟨h.mem, h.mutexes, goOn_pc_self⟩

/-- The steps of the thread alone lead to a result, with this memory and these locks. -/
def RunsTo (program : χ → Prog σ μ κ ε ρ) (s : Threads ι σ μ κ ε ρ) (t : ι)
    (r : ρ × Alone σ μ) : Prop :=
  ∃ (answers : List (Answer ε)) (s' : Threads ι σ μ κ ε ρ),
    (answers.map (ThreadLabel.next t)).foldlM (step program) s = some s' ∧ s'.At t (.ret r.1) r.2

variable {program : χ → Prog σ μ κ ε ρ}

/-- One step, and the run of what is left. -/
theorem At.step (h : s.At t p a) {s₁ : Threads ι σ μ κ ε ρ} {r : ρ × Alone σ μ} (x : Answer ε)
    (hnext : s.next t p x = some s₁) (hrun : RunsTo program s₁ t r) : RunsTo program s t r := by
  obtain ⟨answers, s', hrun, hat⟩ := hrun
  refine ⟨x :: answers, s', ?_, hat⟩
  have hstep : Threads.step program s (.next t x) = some s₁ := by
    show s.next t (s.pc t) x = some s₁
    rw [h.pc]
    exact hnext
  rw [List.map_cons, List.foldlM_cons, hstep]
  exact hrun

/-- **The execution is a run**: the thread alone comes to the result and the state of
the execution. -/
theorem exec_run (o : Outcomes μ κ ε) (h : s.At t p a) : RunsTo program s t (p.exec o a) := by
  -- induction on the program; each step of the execution is one of the thread
  induction p generalizing s a with
  | ret r => exact ⟨[], s, rfl, h⟩
  | access next store ih =>
      refine h.step .go rfl ?_
      rw [h.mem]
      exact ih a.mem ⟨rfl, h.mutexes, goOn_pc_self⟩
  | init m next ih =>
      rw [Prog.exec_init]
      split
      · refine h.step .go rfl (ih true (h.put ?_ ?_ _))
        · rw [List.count_eq_zero_of_not_mem (by simp), counted_zero]
        · intro m' hm
          exact List.count_filter (by simpa using hm)
      · exact h.step .failed rfl (ih false (h.goOn _))
  | lock m next ih =>
      rw [Prog.exec_lock]
      split
      · have hlock : (s.mutexes m).lock t = some (counted t (a.held.count m + 1)) := by
          -- alone, the lock fails only by a timeout
          rw [h.mutexes m]
          exact lock_counted t _
        have hnext : s.next t (.lock m next) .go
            = some ((s.put m (counted t (a.held.count m + 1))).goOn t (next true)) := by
          show Option.map _ ((s.mutexes m).lock t) = _
          rw [hlock]
          rfl
        refine h.step .go hnext (ih true (h.put ?_ ?_ _))
        · rw [List.count_cons_self]
        · intro m' hm
          exact List.count_cons_of_ne hm.symm
      · exact h.step .failed rfl (ih false (h.goOn _))
  | unlock m next ih =>
      -- the thread owns what it has locked more often than unlocked
      have howner : decide ((s.mutexes m).owner = some t) = decide (m ∈ a.held) := by
        rw [h.mutexes m]
        exact decide_eq_decide.mpr ((owner_counted t _).trans List.count_pos_iff)
      refine h.step .go rfl ?_
      rw [howner]
      refine ih (decide (m ∈ a.held)) (h.put ?_ ?_ _)
      · rw [h.mutexes m, unlock_counted, List.count_erase_self]
      · intro m' hm
        exact List.count_erase_of_ne hm
  | external q next ih =>
      exact h.step (.result (o.answer q)) rfl (ih (o.answer q) (h.goOn _))

end Threads

end WallController.Lib
