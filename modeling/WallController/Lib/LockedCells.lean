/-
  WallController.Lib.LockedCells
  ────────────────────────────────
  **CALLS THAT HOLD ONE MUTEX OF A TABLE AT A TIME.**

  Each cell of a table has its mutex.  A call takes mutexes with a timeout,
  which can fail, or without one; it loads and stores cells, and it calls the
  outside, some of whose functions (`Foreign`) must not be called with a mutex
  held.  Any number of threads make calls, in any order of their steps.

  `Balanced Good Foreign p own Q` is a judgement about one call at `p`: `own`
  is the mutex that it holds and the content of its cell.  The call locks only
  while it holds none, stores only to its cell, unlocks only what it holds and
  leaves the cell good; at the end `Q` holds.

  Main result: `balanced_of_reachable`, for all interleavings.
-/
import WallController.Lib.Mutex
import WallController.Lib.Runs
import Mathlib.Logic.Function.Basic

namespace WallController.Lib

/-! ## §1. Calls. -/

/-- What a call can still do, on cells `α` with the mutexes `μ`, where the outside `κ`
answers. -/
inductive CellProg (μ α κ : Type) (ε : κ → Type) (ρ : Type) where
  | ret (r : ρ)
  | load (m : μ) (next : α → CellProg μ α κ ε ρ)
  | store (m : μ) (f : α → α) (next : CellProg μ α κ ε ρ)
  /-- The lock with a timeout tells whether the mutex was taken. -/
  | tryLock (m : μ) (next : Bool → CellProg μ α κ ε ρ)
  | lock (m : μ) (next : CellProg μ α κ ε ρ)
  | unlock (m : μ) (next : CellProg μ α κ ε ρ)
  | call (q : κ) (next : ε q → CellProg μ α κ ε ρ)

namespace CellProg

variable {μ α κ ρ ρ' : Type} {ε : κ → Type}

/-- Sequencing. -/
def bind : CellProg μ α κ ε ρ → (ρ → CellProg μ α κ ε ρ') → CellProg μ α κ ε ρ'
  | ret r, f => f r
  | load m next, f => load m fun a => (next a).bind f
  | store m g next, f => store m g (next.bind f)
  | tryLock m next, f => tryLock m fun b => (next b).bind f
  | lock m next, f => lock m (next.bind f)
  | unlock m next, f => unlock m (next.bind f)
  | call q next, f => call q fun e => (next e).bind f

instance : Monad (CellProg μ α κ ε) where
  pure := ret
  bind := bind

/-- A field of a cell. -/
def get {β : Type} (m : μ) (field : α → β) : CellProg μ α κ ε β := load m fun a => ret (field a)

def put (m : μ) (f : α → α) : CellProg μ α κ ε Unit := store m f (ret ())

def mutexTryLock (m : μ) : CellProg μ α κ ε Bool := tryLock m ret

def mutexLock (m : μ) : CellProg μ α κ ε Unit := lock m (ret ())

def mutexUnlock (m : μ) : CellProg μ α κ ε Unit := unlock m (ret ())

def ask (q : κ) : CellProg μ α κ ε (ε q) := call q ret

/-! ## §2. The judgement. -/

section Balanced

variable (Good : α → Prop) (Foreign : κ → Prop)

/-- The discipline of one call. -/
def Balanced : CellProg μ α κ ε ρ → Option (μ × α) → (ρ → Option (μ × α) → Prop) → Prop
  | ret r, own, Q => Q r own
  | load m next, own, Q => ∀ a, (∀ b, own = some (m, b) → a = b) → Balanced (next a) own Q
  | store m f next, own, Q => ∃ a, own = some (m, a) ∧ Balanced next (some (m, f a)) Q
  | tryLock m next, own, Q =>
      own = none ∧ (∀ a, Good a → Balanced (next true) (some (m, a)) Q)
      ∧ Balanced (next false) none Q
  | lock m next, own, Q => own = none ∧ ∀ a, Good a → Balanced next (some (m, a)) Q
  | unlock m next, own, Q => ∃ a, own = some (m, a) ∧ Good a ∧ Balanced next none Q
  | call q next, own, Q => (Foreign q → own = none) ∧ ∀ e, Balanced (next e) own Q

variable {Good Foreign} {p : CellProg μ α κ ε ρ} {own : Option (μ × α)} {m : μ} {a : α}

/-- **Sequencing.** -/
theorem Balanced.bind {f : ρ → CellProg μ α κ ε ρ'} {Q : ρ → Option (μ × α) → Prop}
    {Q' : ρ' → Option (μ × α) → Prop} (h : p.Balanced Good Foreign own Q)
    (hf : ∀ r own, Q r own → (f r).Balanced Good Foreign own Q') :
    (p >>= f).Balanced Good Foreign own Q' := by
  induction p generalizing own with
  | ret r => exact hf r own h
  | load m next ih => exact fun a ha => ih a (h a ha)
  | store m g next ih =>
      obtain ⟨a, hown, hnext⟩ := h
      exact ⟨a, hown, ih hnext⟩
  | tryLock m next ih =>
      obtain ⟨hown, htaken, hfails⟩ := h
      exact ⟨hown, fun a ha => ih true (htaken a ha), ih false hfails⟩
  | lock m next ih => exact ⟨h.1, fun a ha => ih (h.2 a ha)⟩
  | unlock m next ih =>
      obtain ⟨a, hown, ha, hnext⟩ := h
      exact ⟨a, hown, ha, ih hnext⟩
  | call q next ih => exact ⟨h.1, fun e => ih e (h.2 e)⟩

/-- Sequencing, where it is known what the call holds in between. -/
theorem Balanced.bind_eq {f : ρ → CellProg μ α κ ε ρ'} {own' : Option (μ × α)}
    {Q' : ρ' → Option (μ × α) → Prop} (h : p.Balanced Good Foreign own fun _ o => o = own')
    (hf : ∀ r, (f r).Balanced Good Foreign own' Q') : (p >>= f).Balanced Good Foreign own Q' :=
  h.bind fun r _ ho => ho ▸ hf r

/-! ### The rules. -/

variable {f : ρ → CellProg μ α κ ε ρ'} {Q' : ρ' → Option (μ × α) → Prop}

theorem balanced_pure {r : ρ} {Q : ρ → Option (μ × α) → Prop} (h : Q r own) :
    (pure r : CellProg μ α κ ε ρ).Balanced Good Foreign own Q := h

/-- A load of the cell that the call holds. -/
theorem balanced_get_own {β : Type} {field : α → β} {f : β → CellProg μ α κ ε ρ'}
    (h : (f (field a)).Balanced Good Foreign (some (m, a)) Q') :
    (get m field >>= f).Balanced Good Foreign (some (m, a)) Q' := by
  intro x hx
  obtain rfl : x = a := hx a rfl
  exact h

/-- A load of any cell. -/
theorem balanced_get {β : Type} {field : α → β} {f : β → CellProg μ α κ ε ρ'}
    (h : ∀ b, (f b).Balanced Good Foreign own Q') :
    (get m field >>= f).Balanced Good Foreign own Q' := fun x _ => h (field x)

theorem balanced_put {g : α → α} {f : Unit → CellProg μ α κ ε ρ'}
    (h : (f ()).Balanced Good Foreign (some (m, g a)) Q') :
    (put m g >>= f).Balanced Good Foreign (some (m, a)) Q' := ⟨a, rfl, h⟩

theorem balanced_tryLock {f : Bool → CellProg μ α κ ε ρ'}
    (htaken : ∀ a, Good a → (f true).Balanced Good Foreign (some (m, a)) Q')
    (hfails : (f false).Balanced Good Foreign none Q') :
    (mutexTryLock m >>= f).Balanced Good Foreign none Q' := ⟨rfl, htaken, hfails⟩

theorem balanced_lock {f : Unit → CellProg μ α κ ε ρ'}
    (h : ∀ a, Good a → (f ()).Balanced Good Foreign (some (m, a)) Q') :
    (mutexLock m >>= f).Balanced Good Foreign none Q' := ⟨rfl, h⟩

theorem balanced_unlock {f : Unit → CellProg μ α κ ε ρ'} (ha : Good a)
    (h : (f ()).Balanced Good Foreign none Q') :
    (mutexUnlock m >>= f).Balanced Good Foreign (some (m, a)) Q' := ⟨a, rfl, ha, h⟩

/-- An unlock that ends the call. -/
theorem balanced_unlock_last {Q : Unit → Option (μ × α) → Prop} (ha : Good a) (h : Q () none) :
    (mutexUnlock m : CellProg μ α κ ε Unit).Balanced Good Foreign (some (m, a)) Q := ⟨a, rfl, ha, h⟩

theorem balanced_ask {q : κ} {f : ε q → CellProg μ α κ ε ρ'} (hq : Foreign q → own = none)
    (h : ∀ e, (f e).Balanced Good Foreign own Q') :
    (ask q >>= f).Balanced Good Foreign own Q' := ⟨hq, h⟩

/-- A call of the outside that ends the call. -/
theorem balanced_ask_last {q : κ} {Q : ε q → Option (μ × α) → Prop} (hq : Foreign q → own = none)
    (h : ∀ e, Q e own) : (ask q : CellProg μ α κ ε (ε q)).Balanced Good Foreign own Q := ⟨hq, h⟩

end Balanced

end CellProg

/-! ## §3. The system. -/

/-- The cells, their mutexes and the threads. -/
structure Cells (ι μ α κ : Type) (ε : κ → Type) (ρ : Type) where
  cells : μ → α
  mutexes : μ → Mutex ι
  pc : ι → CellProg μ α κ ε ρ

namespace Cells

variable {ι μ α κ ρ χ : Type} {ε : κ → Type} [DecidableEq ι] [DecidableEq μ]
  {s s' : Cells ι μ α κ ε ρ} {t u : ι}

def goOn (s : Cells ι μ α κ ε ρ) (t : ι) (p : CellProg μ α κ ε ρ) : Cells ι μ α κ ε ρ :=
  { s with pc := Function.update s.pc t p }

def setMutex (s : Cells ι μ α κ ε ρ) (m : μ) (x : Mutex ι) : Cells ι μ α κ ε ρ :=
  { s with mutexes := Function.update s.mutexes m x }

def setCell (s : Cells ι μ α κ ε ρ) (m : μ) (a : α) : Cells ι μ α κ ε ρ :=
  { s with cells := Function.update s.cells m a }

/-- A step of the thread `t`, where a call `c` runs `program c`. -/
inductive Step (program : χ → CellProg μ α κ ε ρ) (s : Cells ι μ α κ ε ρ) (t : ι) :
    Cells ι μ α κ ε ρ → Prop
  | begins {r : ρ} (h : s.pc t = .ret r) (c : χ) : Step program s t (s.goOn t (program c))
  | load {m next} (h : s.pc t = .load m next) : Step program s t (s.goOn t (next (s.cells m)))
  | store {m f next} (h : s.pc t = .store m f next) :
      Step program s t ((s.setCell m (f (s.cells m))).goOn t next)
  | taken {m next x} (h : s.pc t = .tryLock m next) (hx : (s.mutexes m).lock t = some x) :
      Step program s t ((s.setMutex m x).goOn t (next true))
  | refused {m next} (h : s.pc t = .tryLock m next) : Step program s t (s.goOn t (next false))
  | locks {m next x} (h : s.pc t = .lock m next) (hx : (s.mutexes m).lock t = some x) :
      Step program s t ((s.setMutex m x).goOn t next)
  | unlocks {m next} (h : s.pc t = .unlock m next) :
      Step program s t ((s.setMutex m ((s.mutexes m).unlock t)).goOn t next)
  | answered {q next} (h : s.pc t = .call q next) (e : ε q) : Step program s t (s.goOn t (next e))

/-- The threads idle, the mutexes free and the cells as in a set. -/
def system (program : χ → CellProg μ α κ ε ρ) (init : (μ → α) → Prop) :
    TransSys (Cells ι μ α κ ε ρ) ι where
  init s := init s.cells ∧ (∀ m, s.mutexes m = .free) ∧ ∀ t, ∃ r, s.pc t = .ret r
  step s t s' := Step program s t s'

/-! ## §4. All interleavings. -/

variable {Good : α → Prop} {Foreign : κ → Prop}

/-- What a thread holds is what its mutexes and their cells say. -/
structure Holds (s : Cells ι μ α κ ε ρ) (t : ι) (own : Option (μ × α)) : Prop where
  owner : ∀ m, (s.mutexes m).owner = some t ↔ ∃ a, own = some (m, a)
  content : ∀ m a, own = some (m, a) → s.cells m = a

/-- The invariant: each thread is at a balanced call. -/
structure AllBalanced (Good : α → Prop) (Foreign : κ → Prop) (s : Cells ι μ α κ ε ρ) : Prop where
  plain : ∀ m, (s.mutexes m).Plain
  good : ∀ m, (s.mutexes m).owner = none → Good (s.cells m)
  calls : ∀ t, ∃ own, Holds s t own
    ∧ (s.pc t).Balanced Good Foreign own fun _ own => own = none

omit [DecidableEq ι] [DecidableEq μ] in
/-- A thread that holds nothing owns no mutex. -/
theorem Holds.not_owner (h : Holds s t none) (m : μ) : (s.mutexes m).owner ≠ some t := by
  intro ho
  obtain ⟨a, ha⟩ := (h.owner m).mp ho
  cases ha

omit [DecidableEq ι] [DecidableEq μ] in
/-- The owner of a mutex owns no other. -/
theorem Holds.eq_of_owner {m m' : μ} {a : α} (h : Holds s t (some (m, a)))
    (ho : (s.mutexes m').owner = some t) : m' = m := by
  obtain ⟨a', ha'⟩ := (h.owner m').mp ho
  exact (Prod.mk.inj (Option.some.inj ha')).1.symm

omit [DecidableEq μ] in
/-- A step of `t` alone: the mutexes and the cells stay. -/
theorem Holds.goOn {own : Option (μ × α)} (h : Holds s u own) (p : CellProg μ α κ ε ρ) :
    Holds (s.goOn t p) u own := ⟨h.owner, h.content⟩

omit [DecidableEq ι] in
/-- A store to a cell that the thread does not hold. -/
theorem Holds.setCell {own : Option (μ × α)} {m : μ} (h : Holds s u own)
    (ho : (s.mutexes m).owner ≠ some u) (a : α) : Holds (s.setCell m a) u own := by
  refine ⟨h.owner, fun m' a' hown => ?_⟩
  have hne : m' ≠ m := by
    rintro rfl
    exact ho ((h.owner m').mpr ⟨a', hown⟩)
  exact (Function.update_of_ne hne ..).trans (h.content m' a' hown)

omit [DecidableEq ι] in
/-- A change of a mutex that the thread owns neither before nor after. -/
theorem Holds.setMutex {own : Option (μ × α)} {m : μ} {x : Mutex ι} (h : Holds s u own)
    (ho : (s.mutexes m).owner ≠ some u) (hx : x.owner ≠ some u) :
    Holds (s.setMutex m x) u own := by
  refine ⟨fun m' => ?_, h.content⟩
  by_cases hm : m' = m
  · subst hm
    have hnew : (s.setMutex m' x).mutexes m' = x := Function.update_self ..
    rw [hnew]
    exact ⟨fun hu => absurd hu hx, fun hown => absurd ((h.owner m').mpr hown) ho⟩
  · have hsame : (s.setMutex m x).mutexes m' = s.mutexes m' := Function.update_of_ne hm ..
    rw [hsame]
    exact h.owner m'

omit [DecidableEq μ] in
/-- A step of `t` keeps the invariant if it keeps what the other threads hold. -/
theorem AllBalanced.of_step (hs : s.AllBalanced Good Foreign) (hplain : ∀ m, (s'.mutexes m).Plain)
    (hgood : ∀ m, (s'.mutexes m).owner = none → Good (s'.cells m))
    (hpc : ∀ u, u ≠ t → s'.pc u = s.pc u)
    (hothers : ∀ u own, u ≠ t → Holds s u own → Holds s' u own)
    (hself : ∃ own, Holds s' t own
      ∧ (s'.pc t).Balanced Good Foreign own fun _ own => own = none) :
    s'.AllBalanced Good Foreign := by
  refine ⟨hplain, hgood, fun u => ?_⟩
  by_cases hu : u = t
  · subst hu
    exact hself
  · obtain ⟨own, hown, hcall⟩ := hs.calls u
    refine ⟨own, hothers u own hu hown, ?_⟩
    rw [hpc u hu]
    exact hcall

omit [DecidableEq μ] in
/-- A step that only moves the thread. -/
theorem AllBalanced.goOn (hs : s.AllBalanced Good Foreign) {own : Option (μ × α)}
    {p : CellProg μ α κ ε ρ} (hown : Holds s t own)
    (hp : p.Balanced Good Foreign own fun _ own => own = none) :
    (s.goOn t p).AllBalanced Good Foreign := by
  refine hs.of_step (t := t) hs.plain hs.good (fun u hu => Function.update_of_ne hu ..)
    (fun u own _ h => h.goOn p) ⟨own, hown.goOn p, ?_⟩
  have hself : (s.goOn t p).pc t = p := Function.update_self ..
  rw [hself]
  exact hp

/-- The cell of the thread changes. -/
theorem AllBalanced.store (hs : s.AllBalanced Good Foreign) {m : μ} {a b : α}
    {p : CellProg μ α κ ε ρ} (hown : Holds s t (some (m, a)))
    (hp : p.Balanced Good Foreign (some (m, b)) fun _ own => own = none) :
    ((s.setCell m b).goOn t p).AllBalanced Good Foreign := by
  have howner : (s.mutexes m).owner = some t := (hown.owner m).mpr ⟨a, rfl⟩
  refine hs.of_step (t := t) hs.plain (fun m' hm' => ?_) (fun u hu => Function.update_of_ne hu ..)
    (fun u own hu h => ?_) ⟨some (m, b), ⟨fun m' => ?_, fun m' b' hb' => ?_⟩, ?_⟩
  · -- the cell of a free mutex is another one
    have hfree : (s.mutexes m').owner = none := hm'
    have hne : m' ≠ m := by
      intro h
      rw [h, howner] at hfree
      cases hfree
    have hsame : (s.setCell m b).cells m' = s.cells m' := Function.update_of_ne hne ..
    show Good ((s.setCell m b).cells m')
    rw [hsame]
    exact hs.good m' hfree
  · refine (h.setCell ?_ b).goOn p
    rw [howner]
    exact fun htu => hu (Option.some.inj htu).symm
  · refine (hown.owner m').trans ⟨fun ⟨a', ha'⟩ => ?_, fun ⟨b', hb'⟩ => ?_⟩
    · exact ⟨b, by rw [(Prod.mk.inj (Option.some.inj ha')).1]⟩
    · exact ⟨a, by rw [(Prod.mk.inj (Option.some.inj hb')).1]⟩
  · obtain ⟨rfl, rfl⟩ := Prod.mk.inj (Option.some.inj hb')
    exact Function.update_self ..
  · have hself : ((s.setCell m b).goOn t p).pc t = p := Function.update_self ..
    rw [hself]
    exact hp

/-- The thread, which holds no mutex, takes one. -/
theorem AllBalanced.take (hs : s.AllBalanced Good Foreign) {m : μ} {x : Mutex ι}
    {p : CellProg μ α κ ε ρ} (hown : Holds s t none) (hx : (s.mutexes m).lock t = some x)
    (hp : Good (s.cells m) →
      p.Balanced Good Foreign (some (m, s.cells m)) fun _ own => own = none) :
    ((s.setMutex m x).goOn t p).AllBalanced Good Foreign := by
  -- the mutex was free, and its cell good
  obtain ⟨hfree, rfl⟩ := (hs.plain m).lock (hown.not_owner m) hx
  have hnone : (s.mutexes m).owner = none := by
    rw [hfree]
    rfl
  have hnew : (s.setMutex m (.heldBy t)).mutexes m = .heldBy t := Function.update_self ..
  have hold : ∀ {m'}, m' ≠ m → (s.setMutex m (.heldBy t)).mutexes m' = s.mutexes m' :=
    fun h => Function.update_of_ne h ..
  refine hs.of_step (t := t) (fun m' => ?_) (fun m' hm' => ?_)
    (fun u hu => Function.update_of_ne hu ..) (fun u own hu h => ?_)
    ⟨some (m, s.cells m), ⟨fun m' => ?_, fun m' a ha => ?_⟩, ?_⟩
  · show ((s.setMutex m (.heldBy t)).mutexes m').Plain
    by_cases h : m' = m
    · rw [h, hnew]
      exact Or.inr ⟨t, rfl⟩
    · rw [hold h]
      exact hs.plain m'
  · have hm' : ((s.setMutex m (.heldBy t)).mutexes m').owner = none := hm'
    by_cases h : m' = m
    · rw [h, hnew] at hm'
      cases hm'
    · rw [hold h] at hm'
      exact hs.good m' hm'
  · refine (h.setMutex ?_ ?_).goOn p
    · rw [hnone]
      exact fun hu => by cases hu
    · exact fun htu => hu (Option.some.inj htu).symm
  · show ((s.setMutex m (.heldBy t)).mutexes m').owner = some t ↔ _
    by_cases h : m' = m
    · rw [h, hnew]
      exact ⟨fun _ => ⟨s.cells m, rfl⟩, fun _ => rfl⟩
    · rw [hold h]
      refine ⟨fun ho => absurd ho (hown.not_owner m'), fun ⟨a, ha⟩ => ?_⟩
      exact absurd (Prod.mk.inj (Option.some.inj ha)).1.symm h
  · exact (Prod.mk.inj (Option.some.inj ha)).1 ▸ (Prod.mk.inj (Option.some.inj ha)).2
  · have hself : ((s.setMutex m (.heldBy t)).goOn t p).pc t = p := Function.update_self ..
    rw [hself]
    exact hp (hs.good m hnone)

/-- The thread gives its mutex back. -/
theorem AllBalanced.release (hs : s.AllBalanced Good Foreign) {m : μ} {a : α}
    {p : CellProg μ α κ ε ρ} (hown : Holds s t (some (m, a))) (ha : Good a)
    (hp : p.Balanced Good Foreign none fun _ own => own = none) :
    ((s.setMutex m ((s.mutexes m).unlock t)).goOn t p).AllBalanced Good Foreign := by
  -- the mutex is the thread's own
  have howner : (s.mutexes m).owner = some t := (hown.owner m).mpr ⟨a, rfl⟩
  rw [(hs.plain m).unlock_owner howner]
  have hnew : (s.setMutex m .free).mutexes m = .free := Function.update_self ..
  have hold : ∀ {m'}, m' ≠ m → (s.setMutex m .free).mutexes m' = s.mutexes m' :=
    fun h => Function.update_of_ne h ..
  refine hs.of_step (t := t) (fun m' => ?_) (fun m' hm' => ?_)
    (fun u hu => Function.update_of_ne hu ..) (fun u own hu h => ?_)
    ⟨none, ⟨fun m' => ?_, fun m' a' ha' => by cases ha'⟩, ?_⟩
  · show ((s.setMutex m .free).mutexes m').Plain
    by_cases h : m' = m
    · rw [h, hnew]
      exact .free
    · rw [hold h]
      exact hs.plain m'
  · have hm' : ((s.setMutex m .free).mutexes m').owner = none := hm'
    show Good (s.cells m')
    by_cases h : m' = m
    · subst h
      -- the cell left behind is the one the thread has made good
      rw [hown.content m' a rfl]
      exact ha
    · rw [hold h] at hm'
      exact hs.good m' hm'
  · refine (h.setMutex ?_ ?_).goOn p
    · rw [howner]
      exact fun htu => hu (Option.some.inj htu).symm
    · exact fun hu => by cases hu
  · show ((s.setMutex m .free).mutexes m').owner = some t ↔ _
    by_cases h : m' = m
    · rw [h, hnew]
      exact ⟨fun ho => (nomatch ho), fun ⟨a', ha'⟩ => nomatch ha'⟩
    · rw [hold h]
      exact ⟨fun ho => absurd (hown.eq_of_owner ho) h, fun ⟨a', ha'⟩ => by cases ha'⟩
  · have hself : ((s.setMutex m .free).goOn t p).pc t = p := Function.update_self ..
    rw [hself]
    exact hp

variable {program : χ → CellProg μ α κ ε ρ}

/-- The step lemma. -/
theorem AllBalanced.step
    (hprogram : ∀ c, (program c).Balanced Good Foreign none fun _ own => own = none)
    (hs : s.AllBalanced Good Foreign) (h : Step program s t s') : s'.AllBalanced Good Foreign := by
  obtain ⟨own, hown, hcall⟩ := hs.calls t
  cases h with
  | begins h c =>
      rw [h] at hcall
      obtain rfl : own = none := hcall
      exact hs.goOn hown (hprogram c)
  | @load m next h =>
      rw [h] at hcall
      exact hs.goOn hown (hcall (s.cells m) fun b hb => hown.content m b hb)
  | @store m f next h =>
      rw [h] at hcall
      obtain ⟨a, rfl, hnext⟩ := hcall
      rw [hown.content m a rfl]
      exact hs.store hown hnext
  | @taken m next x h hx =>
      rw [h] at hcall
      obtain ⟨rfl, htaken, -⟩ := hcall
      exact hs.take hown hx (htaken _)
  | refused h =>
      rw [h] at hcall
      obtain ⟨rfl, -, hfails⟩ := hcall
      exact hs.goOn hown hfails
  | locks h hx =>
      rw [h] at hcall
      obtain ⟨rfl, htaken⟩ := hcall
      exact hs.take hown hx (htaken _)
  | unlocks h =>
      rw [h] at hcall
      obtain ⟨a, rfl, ha, hnext⟩ := hcall
      exact hs.release hown ha hnext
  | answered h e =>
      rw [h] at hcall
      exact hs.goOn hown (hcall.2 e)

theorem allBalanced_of_reachable
    (hprogram : ∀ c, (program c).Balanced Good Foreign none fun _ own => own = none)
    {init : (μ → α) → Prop} (hinit : ∀ c, init c → ∀ m, Good (c m))
    (h : (system (ι := ι) program init).Reachable s) : s.AllBalanced Good Foreign := by
  refine TransSys.Reachable.invariant ?_ ?_ h
  · intro s hs
    obtain ⟨hcells, hfree, hidle⟩ := hs
    refine ⟨fun m => hfree m ▸ .free, fun m _ => hinit _ hcells m, fun t => ?_⟩
    obtain ⟨r, hr⟩ := hidle t
    refine ⟨none, ⟨fun m => ?_, fun m a ha => by cases ha⟩, ?_⟩
    · rw [hfree m]
      exact ⟨fun ho => (nomatch ho), fun ⟨a, ha⟩ => nomatch ha⟩
    · rw [hr]
      rfl
  · intro s t s' hs hstep
    exact hs.step hprogram hstep

/-- What a thread is about to do, and the mutexes that it owns then. -/
structure Disciplined (Foreign : κ → Prop) (s : Cells ι μ α κ ε ρ) (t : ι) : Prop where
  idle : ∀ r, s.pc t = .ret r → ∀ m, (s.mutexes m).owner ≠ some t
  foreign : ∀ q next, s.pc t = .call q next → Foreign q → ∀ m, (s.mutexes m).owner ≠ some t
  tryLocks : ∀ m next, s.pc t = .tryLock m next → ∀ m', (s.mutexes m').owner ≠ some t
  locks : ∀ m next, s.pc t = .lock m next → ∀ m', (s.mutexes m').owner ≠ some t
  stores : ∀ m f next, s.pc t = .store m f next → s.mutexes m = .heldBy t
  unlocks : ∀ m next, s.pc t = .unlock m next → s.mutexes m = .heldBy t

/-- **All interleavings of balanced calls**: each thread is disciplined, and a
cell is good whenever its mutex is free. -/
theorem balanced_of_reachable
    (hprogram : ∀ c, (program c).Balanced Good Foreign none fun _ own => own = none)
    {init : (μ → α) → Prop} (hinit : ∀ c, init c → ∀ m, Good (c m))
    (h : (system (ι := ι) program init).Reachable s) :
    (∀ t, Disciplined Foreign s t) ∧ ∀ m, (s.mutexes m).owner = none → Good (s.cells m) := by
  have hall := allBalanced_of_reachable hprogram hinit h
  refine ⟨fun t => ?_, hall.good⟩
  obtain ⟨own, hown, hcall⟩ := hall.calls t
  -- what the discipline says the thread holds is what it holds
  have hheld : ∀ {m a}, own = some (m, a) → s.mutexes m = .heldBy t := by
    intro m a ha
    have howner : (s.mutexes m).owner = some t := (hown.owner m).mpr ⟨a, ha⟩
    rcases hall.plain m with hfree | ⟨t', ht'⟩
    · rw [hfree] at howner
      cases howner
    · rw [ht'] at howner
      rw [ht', Option.some.inj howner]
  constructor
  · intro r hr
    rw [hr] at hcall
    obtain rfl : own = none := hcall
    exact hown.not_owner
  · intro q next hq hforeign
    rw [hq] at hcall
    obtain rfl := hcall.1 hforeign
    exact hown.not_owner
  · intro m next hm
    rw [hm] at hcall
    obtain rfl := hcall.1
    exact hown.not_owner
  · intro m next hm
    rw [hm] at hcall
    obtain rfl := hcall.1
    exact hown.not_owner
  · intro m f next hm
    rw [hm] at hcall
    obtain ⟨a, ha, -⟩ := hcall
    exact hheld ha
  · intro m next hm
    rw [hm] at hcall
    obtain ⟨a, ha, -⟩ := hcall
    exact hheld ha

end Cells

end WallController.Lib
