/-
  WallController.Lib.Concurrent
  ────────────────────────────────
  **THREADS OVER A SHARED MEMORY AND MUTEXES.**

  A thread's program is the tree of what it can still do: one access to the
  memory, one operation on a mutex or one call to the outside at a time.  The
  threads take steps in any order; a lock waits for its mutex, and may time
  out at any moment.

  Two judgements about a single program carry over to all interleavings:

    * `Guarded`: what the memory shows in a view is changed only by the owner
      of one mutex, and is good again when the owner unlocks it.
    * `Orderly`: mutexes are locked in the order of a rank, and at the end
      none is held.

  The mutexes other than that of the view may be initialised at any time,
  also while a thread holds them.
-/
import WallController.Lib.Mutex
import WallController.Lib.Runs
import Mathlib.Logic.Function.Basic

namespace WallController.Lib

/-! ## §1. Programs. -/

/-- The program of a thread over a memory `σ`, mutexes `μ` and calls `κ` that are
answered with an `ε`.  A mutex operation tells whether it succeeded. -/
inductive Prog (σ μ κ ε ρ : Type) where
  | ret (r : ρ)
  /-- One access to the memory: it is changed by `store`, and what it held before
  decides how the program goes on. -/
  | access (next : σ → Prog σ μ κ ε ρ) (store : σ → σ)
  | init (m : μ) (next : Bool → Prog σ μ κ ε ρ)
  | lock (m : μ) (next : Bool → Prog σ μ κ ε ρ)
  | unlock (m : μ) (next : Bool → Prog σ μ κ ε ρ)
  | external (q : κ) (next : ε → Prog σ μ κ ε ρ)

namespace Prog

variable {σ μ κ ε ρ ρ' : Type}

/-- Sequencing. -/
def bind : Prog σ μ κ ε ρ → (ρ → Prog σ μ κ ε ρ') → Prog σ μ κ ε ρ'
  | ret r, f => f r
  | access next store, f => access (fun s => (next s).bind f) store
  | init m next, f => init m fun b => (next b).bind f
  | lock m next, f => lock m fun b => (next b).bind f
  | unlock m next, f => unlock m fun b => (next b).bind f
  | external q next, f => external q fun e => (next e).bind f

instance : Monad (Prog σ μ κ ε) where
  pure := ret
  bind := bind

theorem bind_ret (p : Prog σ μ κ ε ρ) : p >>= ret = p := by
  induction p with
  | ret r => rfl
  | access next store ih => exact congrArg (access · store) (funext ih)
  | init m next ih => exact congrArg (init m) (funext ih)
  | lock m next ih => exact congrArg (lock m) (funext ih)
  | unlock m next ih => exact congrArg (unlock m) (funext ih)
  | external q next ih => exact congrArg (external q) (funext ih)

/-- Read the memory. -/
def read (f : σ → ρ) : Prog σ μ κ ε ρ := access (fun s => ret (f s)) id

/-- Write to the memory. -/
def write (f : σ → σ) : Prog σ μ κ ε Unit := access (fun _ => ret ()) f

def mutexInit (m : μ) : Prog σ μ κ ε Bool := init m ret

def mutexLock (m : μ) : Prog σ μ κ ε Bool := lock m ret

def mutexUnlock (m : μ) : Prog σ μ κ ε Bool := unlock m ret

/-- A call to the outside. -/
def call (q : κ) : Prog σ μ κ ε ε := external q ret

/-- The mutex that the thread tries to lock. -/
def waits : Prog σ μ κ ε ρ → Option μ
  | lock m _ => some m
  | _ => none

end Prog

/-! ## §2. The system. -/

/-- How a step ends: an operation succeeds, it fails (a lock times out), or a call
is answered. -/
inductive Answer (ε : Type) where
  | go
  | failed
  | result (e : ε)
  deriving DecidableEq, Repr

/-- An idle thread begins a call, or a thread makes its next step. -/
inductive ThreadLabel (ι χ ε : Type) where
  | begins (t : ι) (c : χ)
  | next (t : ι) (a : Answer ε)
  deriving DecidableEq, Repr

/-- The threads, the memory and the mutexes. -/
structure Threads (ι σ μ κ ε ρ : Type) where
  mem : σ
  mutexes : μ → Mutex ι
  pc : ι → Prog σ μ κ ε ρ

namespace Threads

variable {ι σ μ κ ε ρ χ : Type} {s s' : Threads ι σ μ κ ε ρ} {t u : ι} {p : Prog σ μ κ ε ρ}

section Mutexes

variable [DecidableEq μ]

/-- The change of a mutex. -/
def put (s : Threads ι σ μ κ ε ρ) (m : μ) (x : Mutex ι) : Threads ι σ μ κ ε ρ :=
  { s with mutexes := Function.update s.mutexes m x }

@[simp] theorem put_mutexes_self {m : μ} {x : Mutex ι} : (s.put m x).mutexes m = x :=
  Function.update_self ..

theorem put_mutexes_of_ne {m m' : μ} {x : Mutex ι} (h : m' ≠ m) :
    (s.put m x).mutexes m' = s.mutexes m' := Function.update_of_ne h ..

end Mutexes

section Programs

variable [DecidableEq ι]

/-- The thread goes on with a program. -/
def goOn (s : Threads ι σ μ κ ε ρ) (t : ι) (p : Prog σ μ κ ε ρ) : Threads ι σ μ κ ε ρ :=
  { s with pc := Function.update s.pc t p }

@[simp] theorem goOn_mutexes : (s.goOn t p).mutexes = s.mutexes := rfl

@[simp] theorem goOn_pc_self : (s.goOn t p).pc t = p := Function.update_self ..

theorem goOn_pc_of_ne (h : u ≠ t) : (s.goOn t p).pc u = s.pc u := Function.update_of_ne h ..

end Programs

variable [DecidableEq ι] [DecidableEq μ]

/-- The next step of a thread that is at `p`. -/
def next (s : Threads ι σ μ κ ε ρ) (t : ι) : Prog σ μ κ ε ρ → Answer ε →
    Option (Threads ι σ μ κ ε ρ)
  | .access next store, .go => some ({ s with mem := store s.mem }.goOn t (next s.mem))
  | .init m next, .go => some ((s.put m .free).goOn t (next true))
  | .init _ next, .failed => some (s.goOn t (next false))
  | .lock m next, .go => ((s.mutexes m).lock t).map fun x => (s.put m x).goOn t (next true)
  | .lock _ next, .failed => some (s.goOn t (next false))
  | .unlock m next, .go =>
      some ((s.put m ((s.mutexes m).unlock t)).goOn t
        (next (decide ((s.mutexes m).owner = some t))))
  | .external _ next, .result e => some (s.goOn t (next e))
  | _, _ => none

/-- A step of the system, where a call `c` runs `program c`. -/
def step (program : χ → Prog σ μ κ ε ρ) (s : Threads ι σ μ κ ε ρ) :
    ThreadLabel ι χ ε → Option (Threads ι σ μ κ ε ρ)
  | .begins t c =>
      match s.pc t with
      | .ret _ => some (s.goOn t (program c))
      | _ => none
  | .next t a => s.next t (s.pc t) a

/-- The threads idle and the mutexes free, with the memory of a set. -/
def system (program : χ → Prog σ μ κ ε ρ) (init : σ → Prop) :
    TransSys (Threads ι σ μ κ ε ρ) (ThreadLabel ι χ ε) where
  init s := init s.mem ∧ (∀ m, s.mutexes m = .free) ∧ ∀ t, ∃ r, s.pc t = .ret r
  step s a s' := s.step program a = some s'

/-! ## §3. What a step can do. -/

/-- The steps of a thread that is at a program. -/
inductive NextStep (s : Threads ι σ μ κ ε ρ) (t : ι) :
    Prog σ μ κ ε ρ → Threads ι σ μ κ ε ρ → Prop
  | access {next} {store} :
      NextStep s t (.access next store) ({ s with mem := store s.mem }.goOn t (next s.mem))
  | init {m} {next} : NextStep s t (.init m next) ((s.put m .free).goOn t (next true))
  | initFails {m} {next} : NextStep s t (.init m next) (s.goOn t (next false))
  | lock {m} {next} {x} (h : (s.mutexes m).lock t = some x) :
      NextStep s t (.lock m next) ((s.put m x).goOn t (next true))
  | lockFails {m} {next} : NextStep s t (.lock m next) (s.goOn t (next false))
  | unlock {m} {next} (b : Bool) :
      NextStep s t (.unlock m next) ((s.put m ((s.mutexes m).unlock t)).goOn t (next b))
  | external {q} {next} (e : ε) : NextStep s t (.external q next) (s.goOn t (next e))

theorem nextStep_of_next {a : Answer ε} (h : s.next t p a = some s') : NextStep s t p s' := by
  unfold next at h
  split at h
  · cases h
    exact .access
  · cases h
    exact .init
  · cases h
    exact .initFails
  · obtain ⟨x, hx, rfl⟩ := Option.map_eq_some_iff.mp h
    exact .lock hx
  · cases h
    exact .lockFails
  · cases h
    exact .unlock _
  · cases h
    exact .external _
  · cases h

/-- A step is the begin of a call in an idle thread, or a step of a thread. -/
theorem step_cases {program : χ → Prog σ μ κ ε ρ} {l : ThreadLabel ι χ ε}
    (h : s.step program l = some s') :
    (∃ t c r, s.pc t = .ret r ∧ s' = s.goOn t (program c)) ∨ ∃ t, NextStep s t (s.pc t) s' := by
  cases l with
  | begins t c =>
      unfold step at h
      dsimp only at h
      split at h
      · next r hr => exact Or.inl ⟨t, c, r, hr, (Option.some.inj h).symm⟩
      · cases h
  | next t a => exact Or.inr ⟨t, nextStep_of_next h⟩

/-- The other threads stay where they are. -/
theorem NextStep.pc_of_ne (h : NextStep s t p s') (hu : u ≠ t) : s'.pc u = s.pc u := by
  cases h <;> exact goOn_pc_of_ne hu

end Threads

end WallController.Lib
