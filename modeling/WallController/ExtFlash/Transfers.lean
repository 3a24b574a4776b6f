/-
  WallController.ExtFlash.Transfers
  ────────────────────────────────
  **THE TRANSFERS OVER SPI (`SPIController.c`).**

  `bSPI_Write`, `bSPI_Transceive` and `bSPI_MultiPhaseTranseive` differ in the
  driver function that they call and in how long they wait.  Each takes the mutex,
  resets the semaphore, stores a failure, starts its transfer and waits for
  `vLPSPI1_Callback`, an interrupt that stores the result and gives the semaphore.

  The calls of all threads and the interrupts interleave here, one access at a
  time.  The mutex makes the transfers serial in every run (`transfers_serial`).
  A call that gives up leaves its transfer running, though: a callback that
  comes late gives the semaphore to whoever waits then.  Where none does, a call
  reports the result of its own transfer (`result_of_own_transfer`).
-/
import WallController.Lib.Runs
import Mathlib

namespace WallController.ExtFlash.Spi

open WallController.Lib

/-! ## §1. The calls and the interrupt. -/

/-- Where a thread stands in one of the three functions. -/
inductive Pc where
  | outside
  /-- It has the mutex, and resets the semaphore. -/
  | locked
  /-- It stores `eTransfer_Failed`. -/
  | cleared
  /-- It starts its transfer. -/
  | ready
  /-- It waits for the semaphore. -/
  | waiting (t : Nat)
  /-- It has taken the semaphore, and reads the result. -/
  | signalled (t : Nat)
  /-- It gives the mutex back, with its result. -/
  | unlocking (t : Option Nat) (bRes : Bool)
  deriving DecidableEq, Repr

inductive Event (ι : Type) where
  | started (i : ι) (t : Nat)
  /-- The callback of a transfer. -/
  | completed (t : Nat) (bSuccess : Bool)
  /-- A call returns; the transfer is the one it has started. -/
  | returned (i : ι) (t : Option Nat) (bRes : Bool)
  deriving DecidableEq, Repr

/-- The controller: what the threads share, where they stand, and what has happened,
newest first. -/
structure SPIController (ι : Type) where
  /-- The owner of `stSPITransferMutex`. -/
  owner : Option ι
  stTSem_SPITransferDone : Bool
  /-- `eLastTransferResult` is `eTransfer_Success`. -/
  eLastTransferResult : Bool
  pc : ι → Pc
  /-- The transfers are numbered in the order of their starts. -/
  started : Nat
  /-- Those whose callback has not come. -/
  inFlight : List Nat
  log : List (Event ι)

inductive Act (ι : Type) where
  /-- A call gets the mutex. -/
  | lock (i : ι)
  /-- It does not get it in time. -/
  | busy (i : ι)
  /-- The next access of a call; the driver starts its transfer, or refuses. -/
  | act (i : ι) (bStarted : Bool)
  /-- `k_sem_take` runs out of time. -/
  | timeout (i : ι)
  /-- `vLPSPI1_Callback`. -/
  | callback (t : Nat) (bSuccess : Bool)
  deriving DecidableEq, Repr

variable {ι : Type} [DecidableEq ι]

namespace SPIController

def init : SPIController ι where
  owner := none
  stTSem_SPITransferDone := false
  eLastTransferResult := false
  pc _ := .outside
  started := 0
  inFlight := []
  log := []

variable (s : SPIController ι)

def goto (i : ι) (pc : Pc) : SPIController ι := { s with pc := Function.update s.pc i pc }

/-- The next access of a call. -/
def act (i : ι) (bStarted : Bool) : Option (SPIController ι) :=
  match s.pc i with
  | .outside => none
  | .locked => some { s.goto i .cleared with stTSem_SPITransferDone := false }
  | .cleared => some { s.goto i .ready with eLastTransferResult := false }
  | .ready =>
    some (if bStarted then
        { s.goto i (.waiting s.started) with
          started := s.started + 1
          inFlight := s.started :: s.inFlight
          log := .started i s.started :: s.log }
      else s.goto i (.unlocking none false))
  | .waiting t =>
    if s.stTSem_SPITransferDone then
      some { s.goto i (.signalled t) with stTSem_SPITransferDone := false }
    else none
  | .signalled t => some (s.goto i (.unlocking (some t) s.eLastTransferResult))
  | .unlocking t bRes =>
    some { s.goto i .outside with owner := none, log := .returned i t bRes :: s.log }

def timeout (i : ι) : Option (SPIController ι) :=
  match s.pc i with
  | .waiting t =>
    if s.stTSem_SPITransferDone then none else some (s.goto i (.unlocking (some t) false))
  | .outside | .locked | .cleared | .ready | .signalled _ | .unlocking _ _ => none

def step : Act ι → Option (SPIController ι)
  | .lock i =>
    if s.pc i = .outside ∧ s.owner = none then
      some { s.goto i .locked with owner := some i } else none
  | .busy i =>
    if s.pc i = .outside ∧ s.owner ≠ none then
      some { s with log := .returned i none false :: s.log }
    else none
  | .act i bStarted => s.act i bStarted
  | .timeout i => s.timeout i
  | .callback t bSuccess =>
    if t ∈ s.inFlight then
      some { s with
        eLastTransferResult := bSuccess
        stTSem_SPITransferDone := true
        inFlight := s.inFlight.erase t
        log := .completed t bSuccess :: s.log }
    else none

end SPIController

def spiSystem (ι : Type) [DecidableEq ι] : TransSys (SPIController ι) (Act ι) where
  init s := s = .init
  step s a s' := s.step a = some s'

/-! ## §2. What a step is. -/

open SPIController

variable {s s' : SPIController ι}

/-- The accesses of a call, by where it stands. -/
inductive Access (s : SPIController ι) (i : ι) : SPIController ι → Prop
  | reset (h : s.pc i = .locked) :
      Access s i { s.goto i .cleared with stTSem_SPITransferDone := false }
  | fail (h : s.pc i = .cleared) : Access s i { s.goto i .ready with eLastTransferResult := false }
  | start (h : s.pc i = .ready) :
      Access s i { s.goto i (.waiting s.started) with
        started := s.started + 1
        inFlight := s.started :: s.inFlight
        log := .started i s.started :: s.log }
  | refuse (h : s.pc i = .ready) : Access s i (s.goto i (.unlocking none false))
  | take (t : Nat) (h : s.pc i = .waiting t) (hsem : s.stTSem_SPITransferDone = true) :
      Access s i { s.goto i (.signalled t) with stTSem_SPITransferDone := false }
  | giveUp (t : Nat) (h : s.pc i = .waiting t) (hsem : s.stTSem_SPITransferDone = false) :
      Access s i (s.goto i (.unlocking (some t) false))
  | read (t : Nat) (h : s.pc i = .signalled t) :
      Access s i (s.goto i (.unlocking (some t) s.eLastTransferResult))
  | unlock (t : Option Nat) (bRes : Bool) (h : s.pc i = .unlocking t bRes) :
      Access s i { s.goto i .outside with owner := none, log := .returned i t bRes :: s.log }

theorem access_of_act {i : ι} {bStarted : Bool} (h : s.act i bStarted = some s') :
    Access s i s' := by
  unfold act at h
  cases hpc : s.pc i with
  | outside =>
    rw [hpc] at h
    exact absurd h (by simp)
  | locked =>
    rw [hpc] at h
    obtain rfl := Option.some.inj h
    exact .reset hpc
  | cleared =>
    rw [hpc] at h
    obtain rfl := Option.some.inj h
    exact .fail hpc
  | ready =>
    rw [hpc] at h
    obtain rfl := Option.some.inj h
    cases bStarted with
    | true => exact .start hpc
    | false => exact .refuse hpc
  | waiting t =>
    rw [hpc] at h
    dsimp only at h
    split at h
    · next hsem =>
      obtain rfl := Option.some.inj h
      exact .take t hpc hsem
    · exact absurd h (by simp)
  | signalled t =>
    rw [hpc] at h
    obtain rfl := Option.some.inj h
    exact .read t hpc
  | unlocking t bRes =>
    rw [hpc] at h
    obtain rfl := Option.some.inj h
    exact .unlock t bRes hpc

theorem access_of_timeout {i : ι} (h : s.timeout i = some s') : Access s i s' := by
  unfold timeout at h
  cases hpc : s.pc i with
  | waiting t =>
    rw [hpc] at h
    dsimp only at h
    split at h
    · exact absurd h (by simp)
    · next hsem =>
      obtain rfl := Option.some.inj h
      exact .giveUp t hpc (Bool.eq_false_iff.mpr hsem)
  | outside | locked | cleared | ready | signalled | unlocking =>
    rw [hpc] at h
    exact absurd h (by simp)

/-- What a step of the system is. -/
theorem step_cases {a : Act ι} (h : s.step a = some s') :
    (∃ i, a = .lock i ∧ s.pc i = .outside ∧ s.owner = none ∧
        s' = { s.goto i .locked with owner := some i }) ∨
      (∃ i, a = .busy i ∧ s.pc i = .outside ∧
        s' = { s with log := .returned i none false :: s.log }) ∨
      (∃ i, ((∃ bStarted, a = .act i bStarted) ∨ a = .timeout i) ∧ Access s i s') ∨
      ∃ t bSuccess, a = .callback t bSuccess ∧ t ∈ s.inFlight ∧
        s' = { s with
          eLastTransferResult := bSuccess
          stTSem_SPITransferDone := true
          inFlight := s.inFlight.erase t
          log := .completed t bSuccess :: s.log } := by
  cases a with
  | lock i =>
    have h' : (if s.pc i = .outside ∧ s.owner = none then
      some { s.goto i .locked with owner := some i } else none) = some s' := h
    split at h'
    · next hc => exact Or.inl ⟨i, rfl, hc.1, hc.2, (Option.some.inj h').symm⟩
    · exact absurd h' (by simp)
  | busy i =>
    have h' : (if s.pc i = .outside ∧ s.owner ≠ none then
      some { s with log := .returned i none false :: s.log } else none) = some s' := h
    split at h'
    · next hc => exact Or.inr (Or.inl ⟨i, rfl, hc.1, (Option.some.inj h').symm⟩)
    · exact absurd h' (by simp)
  | act i bStarted => exact Or.inr (Or.inr (Or.inl ⟨i, Or.inl ⟨bStarted, rfl⟩, access_of_act h⟩))
  | timeout i => exact Or.inr (Or.inr (Or.inl ⟨i, Or.inr rfl, access_of_timeout h⟩))
  | callback t bSuccess =>
    unfold SPIController.step at h
    dsimp only at h
    split at h
    · next hc => exact Or.inr (Or.inr (Or.inr ⟨t, bSuccess, rfl, hc, (Option.some.inj h).symm⟩))
    · exact absurd h (by simp)

/-! ## §3. The transfers are serial. -/

/-- The call that has started a transfer, and has not returned. -/
def current : List (Event ι) → Option (ι × Nat)
  | [] => none
  | .started i t :: _ => some (i, t)
  | .completed _ _ :: log => current log
  | .returned _ (some _) _ :: _ => none
  | .returned _ none _ :: log => current log

/-- A transfer is started when no call has one, and a call returns from its own. -/
def Serial : List (Event ι) → Prop
  | [] => True
  | .started _ _ :: log => current log = none ∧ Serial log
  | .completed _ _ :: log => Serial log
  | .returned i (some t) _ :: log => current log = some (i, t) ∧ Serial log
  | .returned _ none _ :: log => Serial log

/-- The transfer of a call. -/
def Pc.transfer : Pc → Option Nat
  | .waiting t | .signalled t => some t
  | .unlocking t _ => t
  | .outside | .locked | .cleared | .ready => none

/-- The transfer of the owner. -/
def SPIController.transfer (s : SPIController ι) : Option (ι × Nat) :=
  s.owner.bind fun i => (s.pc i).transfer.map fun t => (i, t)

namespace SPIController

/-- The thread in a function owns the mutex. -/
structure Owned (s : SPIController ι) : Prop where
  owner : ∀ i, s.pc i ≠ .outside → s.owner = some i
  inside : ∀ i, s.owner = some i → s.pc i ≠ .outside
  current : Spi.current s.log = s.transfer
  serial : Serial s.log

omit [DecidableEq ι] in
theorem Owned.init : (SPIController.init : SPIController ι).Owned where
  owner _ h := absurd rfl h
  inside _ h := absurd h (by simp [SPIController.init])
  current := rfl
  serial := trivial

omit [DecidableEq ι] in
/-- Every other thread is outside. -/
theorem Owned.others (h : s.Owned) {i j : ι} (hi : s.pc i ≠ .outside) (hj : j ≠ i) :
    s.pc j = .outside := by
  by_contra hne
  exact hj (Option.some.inj ((h.owner j hne).symm.trans (h.owner i hi)))

omit [DecidableEq ι] in
theorem Owned.transfer_of (h : s.Owned) {i : ι} (hi : s.pc i ≠ .outside) :
    s.transfer = (s.pc i).transfer.map fun t => (i, t) := by
  unfold SPIController.transfer
  rw [h.owner i hi]
  rfl

/-- The owner moves on, and keeps the mutex. -/
theorem Owned.goto (h : s.Owned) {i : ι} {pc : Pc} {log : List (Event ι)} (hi : s.pc i ≠ .outside)
    (hpc : pc ≠ .outside) (howner : s'.owner = s.owner) (hmove : s'.pc = Function.update s.pc i pc)
    (hlog : s'.log = log) (hcurrent : Spi.current log = pc.transfer.map fun t => (i, t))
    (hserial : Serial log) : s'.Owned where
  owner j hj := by
    rw [howner, h.owner i hi]
    by_contra hne
    have hji : j ≠ i := fun heq => hne (congrArg some heq.symm)
    rw [hmove, Function.update_of_ne hji, h.others hi hji] at hj
    exact hj rfl
  inside j hj := by
    rw [howner, h.owner i hi] at hj
    obtain rfl := Option.some.inj hj
    rw [hmove, Function.update_self]
    exact hpc
  current := by
    unfold SPIController.transfer
    rw [hlog, hcurrent, howner, h.owner i hi, hmove]
    show _ = (Function.update s.pc i pc i).transfer.map _
    rw [Function.update_self]
  serial := by rw [hlog]; exact hserial

theorem Owned.access (h : s.Owned) {i : ι} (ha : Access s i s') : s'.Owned := by
  -- the thread that moves is the one the current transfer belongs to
  have hcur : ∀ {pc : Pc}, s.pc i = pc → pc ≠ .outside →
      Spi.current s.log = pc.transfer.map fun t => (i, t) := by
    intro pc hpc hne
    rw [h.current, h.transfer_of (by rw [hpc]; exact hne), hpc]
  cases ha with
  | reset hpc =>
    have hcurrent := hcur hpc (by simp)
    exact @Owned.goto ι _ s _ h i .cleared s.log (by rw [hpc]; simp) (by simp) rfl rfl rfl
      hcurrent h.serial
  | fail hpc =>
    have hcurrent := hcur hpc (by simp)
    exact @Owned.goto ι _ s _ h i .ready s.log (by rw [hpc]; simp) (by simp) rfl rfl rfl
      hcurrent h.serial
  | start hpc =>
    exact @Owned.goto ι _ s _ h i (.waiting s.started) (.started i s.started :: s.log)
      (by rw [hpc]; simp) (by simp) rfl rfl rfl rfl ⟨hcur hpc (by simp), h.serial⟩
  | refuse hpc =>
    have hcurrent := hcur hpc (by simp)
    exact @Owned.goto ι _ s _ h i (.unlocking none false) s.log (by rw [hpc]; simp)
      (by simp) rfl rfl
      rfl hcurrent h.serial
  | take t hpc hsem =>
    have hcurrent := hcur hpc (by simp)
    exact @Owned.goto ι _ s _ h i (.signalled t) s.log (by rw [hpc]; simp) (by simp) rfl rfl rfl
      hcurrent h.serial
  | giveUp t hpc hsem =>
    have hcurrent := hcur hpc (by simp)
    exact @Owned.goto ι _ s _ h i (.unlocking (some t) false) s.log (by rw [hpc]; simp)
      (by simp) rfl
      rfl rfl hcurrent h.serial
  | read t hpc =>
    have hcurrent := hcur hpc (by simp)
    exact @Owned.goto ι _ s _ h i (.unlocking (some t) s.eLastTransferResult) s.log
      (by rw [hpc]; simp)
      (by simp) rfl rfl rfl hcurrent h.serial
  | unlock t bRes hpc =>
    have hcurrent := hcur hpc (by simp)
    have hne : s.pc i ≠ .outside := by rw [hpc]; simp
    -- the transfer ends with its call, and nobody is inside any more
    refine ⟨?_, ?_, ?_, ?_⟩
    · intro j hj
      have hj' : Function.update s.pc i .outside j ≠ .outside := hj
      by_cases hji : j = i
      · rw [hji, Function.update_self] at hj'
        exact absurd rfl hj'
      · rw [Function.update_of_ne hji, h.others hne hji] at hj'
        exact absurd rfl hj'
    · intro j hj
      exact absurd hj (by simp)
    · cases t with
      | none => exact hcurrent
      | some t => rfl
    · cases t with
      | none => exact h.serial
      | some t => exact ⟨hcurrent, h.serial⟩

theorem Owned.step {a : Act ι} (h : s.Owned) (hst : s.step a = some s') : s'.Owned := by
  rcases step_cases hst with ⟨i, _, hpc, hnone, rfl⟩ | ⟨i, _, _, rfl⟩ | ⟨i, _, ha⟩ |
    ⟨t, b, _, _, rfl⟩
  · have hall : ∀ j, s.pc j = .outside := by
      intro j
      by_contra hne
      exact absurd ((h.owner j hne).symm.trans hnone) (by simp)
    refine ⟨?_, ?_, ?_, h.serial⟩
    · intro j hj
      have hj' : Function.update s.pc i .locked j ≠ .outside := hj
      by_cases hji : j = i
      · rw [hji]
      · rw [Function.update_of_ne hji, hall j] at hj'
        exact absurd rfl hj'
    · intro j hj
      obtain rfl := Option.some.inj hj
      show Function.update s.pc i .locked i ≠ .outside
      rw [Function.update_self]
      simp
    · have hcurrent := h.current
      unfold SPIController.transfer at hcurrent
      rw [hnone] at hcurrent
      show Spi.current s.log = (Function.update s.pc i .locked i).transfer.map _
      rw [hcurrent, Function.update_self]
      rfl
  · exact ⟨h.owner, h.inside, h.current, h.serial⟩
  · exact h.access ha
  · exact ⟨h.owner, h.inside, h.current, h.serial⟩

theorem owned_of_reachable {ok : SPIController ι → Act ι → Prop}
    (h : (spiSystem ι).ReachableVia ok s) : s.Owned := by
  refine TransSys.ReachableVia.invariant ?_ ?_ h
  · intro s hs
    rw [show s = .init from hs]
    exact .init
  · intro s a s' hi _ hst
    exact hi.step hst

end SPIController

/-- **The transfers are serial**: in every interleaving, no call starts a transfer between
the start of another call's and its return, and each call returns from its own. -/
theorem transfers_serial (h : (spiSystem ι).Reachable s) :
    Serial s.log ∧ Spi.current s.log = s.transfer ∧
      ∀ i j, s.pc i ≠ .outside → s.pc j ≠ .outside → i = j := by
  have hi := owned_of_reachable h
  refine ⟨hi.serial, hi.current, ?_⟩
  intro i j hpi hpj
  exact Option.some.inj ((hi.owner i hpi).symm.trans (hi.owner j hpj))

/-- A call of one thread, up to its start. -/
def openCall (i : Bool) : List (Act Bool) := [.lock i, .act i true, .act i true, .act i true]

/-- The first thread times out, and the second one's transfer succeeds. -/
def promptRun : List (Act Bool) :=
  openCall false ++ [.timeout false, .act false true] ++ openCall true
    ++ [.callback 1 true, .act true true, .act true true, .act true true]

theorem transfers_serial_prompt :
    ∃ s, promptRun.foldlM SPIController.step .init = some s ∧ Serial s.log := by
  refine ⟨_, rfl, ?_⟩
  have h := transfers_serial (TransSys.Reachable.foldlM (M := spiSystem Bool) (fun _ _ _ hs => hs)
    (.init rfl) promptRun rfl)
  exact h.1

/-! ## §4. The result of a call. -/

/-- A call that returns true has started a transfer, and this one has succeeded before. -/
def Honest : List (Event ι) → Prop
  | [] => True
  | .returned _ (some t) true :: log => .completed t true ∈ log ∧ Honest log
  | .returned _ none true :: _ => False
  | .returned _ _ false :: log => Honest log
  | .started _ _ :: log => Honest log
  | .completed _ _ :: log => Honest log

namespace SPIController

/-- A callback comes only while its own call waits: no transfer of a call that has timed
out completes after all. -/
def Prompt (s : SPIController ι) : Act ι → Prop
  | .callback t _ => ∃ i, s.pc i = .waiting t
  | .lock _ | .busy _ | .act _ _ | .timeout _ => True

instance [Fintype ι] (s : SPIController ι) : ∀ a, Decidable (Prompt s a)
  | .callback t _ => inferInstanceAs (Decidable (∃ i, s.pc i = .waiting t))
  | .lock _ | .busy _ | .act _ _ | .timeout _ => inferInstanceAs (Decidable True)

/-- What the semaphore and the result mean to a call. -/
def Meaning (s : SPIController ι) : Pc → Prop
  | .outside | .locked => True
  | .cleared | .ready => s.stTSem_SPITransferDone = false
  | .waiting t => s.stTSem_SPITransferDone = true → .completed t s.eLastTransferResult ∈ s.log
  | .signalled t => .completed t s.eLastTransferResult ∈ s.log
  | .unlocking t bRes => bRes = true → ∃ n, t = some n ∧ .completed n true ∈ s.log

omit [DecidableEq ι] in
/-- An event changes no meaning. -/
theorem Meaning.cons {pc : Pc} (h : s.Meaning pc) (e : Event ι) :
    { s with log := e :: s.log }.Meaning pc := by
  cases pc with
  | outside | locked => exact trivial
  | cleared | ready => exact h
  | waiting t =>
    intro hsem
    exact List.mem_cons_of_mem _ (h hsem)
  | signalled t => exact List.mem_cons_of_mem _ h
  | unlocking t bRes =>
    intro hres
    obtain ⟨n, hn, hmem⟩ := h hres
    exact ⟨n, hn, List.mem_cons_of_mem _ hmem⟩

structure Told (s : SPIController ι) : Prop where
  owned : s.Owned
  meaning : ∀ i, s.Meaning (s.pc i)
  honest : Honest s.log

/-- The owner moves on; the others are outside. -/
theorem Told.goto (h : s.Told) {i : ι} {pc : Pc} (hi : s.pc i ≠ .outside) (howned : s'.Owned)
    (hmove : s'.pc = Function.update s.pc i pc) (hmeaning : s'.Meaning pc)
    (hhonest : Honest s'.log) :
    s'.Told where
  owned := howned
  meaning j := by
    rw [hmove]
    by_cases hji : j = i
    · rw [hji, Function.update_self]
      exact hmeaning
    · rw [Function.update_of_ne hji, h.owned.others hi hji]
      exact trivial
  honest := hhonest

theorem Told.access (h : s.Told) {i : ι} (ha : Access s i s') : s'.Told := by
  have howned := h.owned.access ha
  have hmeaning := h.meaning i
  cases ha with
  | reset hpc =>
    exact h.goto (by rw [hpc]; simp) howned rfl rfl h.honest
  | fail hpc =>
    rw [hpc] at hmeaning
    exact h.goto (by rw [hpc]; simp) howned rfl hmeaning h.honest
  | start hpc =>
    rw [hpc] at hmeaning
    refine h.goto (by rw [hpc]; simp) howned rfl ?_ h.honest
    intro hsem
    exact absurd (hmeaning.symm.trans hsem) (by decide)
  | refuse hpc =>
    exact h.goto (by rw [hpc]; simp) howned rfl (fun hfalse => absurd hfalse (by decide)) h.honest
  | take t hpc hsem =>
    rw [hpc] at hmeaning
    exact h.goto (by rw [hpc]; simp) howned rfl (hmeaning hsem) h.honest
  | giveUp t hpc hsem =>
    exact h.goto (by rw [hpc]; simp) howned rfl (fun hfalse => absurd hfalse (by decide)) h.honest
  | read t hpc =>
    rw [hpc] at hmeaning
    refine h.goto (by rw [hpc]; simp) howned rfl ?_ h.honest
    intro hres
    have hmem : Event.completed t s.eLastTransferResult ∈ s.log := hmeaning
    rw [hres] at hmem
    exact ⟨t, rfl, hmem⟩
  | unlock t bRes hpc =>
    rw [hpc] at hmeaning
    refine h.goto (by rw [hpc]; simp) howned rfl trivial ?_
    cases bRes with
    | true =>
      obtain ⟨n, rfl, hmem⟩ := hmeaning rfl
      exact ⟨hmem, h.honest⟩
    | false =>
      cases t with
      | none => exact h.honest
      | some t => exact h.honest

theorem Told.step {a : Act ι} (h : s.Told) (hok : Prompt s a) (hst : s.step a = some s') :
    s'.Told := by
  have howned := h.owned.step hst
  rcases step_cases hst with ⟨i, _, hpc, hnone, rfl⟩ | ⟨i, _, _, rfl⟩ | ⟨i, _, ha⟩ |
    ⟨t, b, rfl, _, rfl⟩
  · refine ⟨howned, ?_, h.honest⟩
    intro j
    show Meaning _ (Function.update s.pc i .locked j)
    by_cases hji : j = i
    · rw [hji, Function.update_self]
      exact trivial
    · have hout : s.pc j = .outside := by
        by_contra hne
        exact absurd ((h.owned.owner j hne).symm.trans hnone) (by simp)
      rw [Function.update_of_ne hji, hout]
      exact trivial
  · exact ⟨howned, fun j => (h.meaning j).cons _, h.honest⟩
  · exact h.access ha
  · obtain ⟨i, hpc⟩ := hok
    refine ⟨howned, ?_, h.honest⟩
    intro j
    show Meaning _ (s.pc j)
    by_cases hji : j = i
    · rw [hji, hpc]
      exact fun _ => List.mem_cons_self
    · rw [h.owned.others (by rw [hpc]; simp) hji]
      exact trivial

end SPIController

/-- **A call reports its own transfer**: where no callback of a transfer that was given up
comes late, a call returns true only after the callback of the transfer that it has started
has reported success. -/
theorem result_of_own_transfer (h : (spiSystem ι).ReachableVia Prompt s) : Honest s.log := by
  have ht : s.Told := by
    refine TransSys.ReachableVia.invariant ?_ ?_ h
    · intro s hs
      rw [show s = .init from hs]
      exact ⟨.init, fun _ => trivial, trivial⟩
    · intro s a s' hi hok hst
      exact hi.step hok hst
  exact ht.honest

theorem result_of_own_transfer_prompt :
    ∃ s, promptRun.foldlM (TransSys.guarded Prompt SPIController.step) .init = some s ∧
      Event.returned true (some 1) true ∈ s.log ∧ Honest s.log := by
  refine ⟨_, rfl, by decide, ?_⟩
  have h : (spiSystem Bool).ReachableVia Prompt _ := TransSys.ReachableVia.foldlM
    (fun _ _ _ hs => TransSys.guarded_some hs) (.init rfl) promptRun rfl
  exact result_of_own_transfer h

/-- The callback of the first transfer comes late. -/
def lateRun : List (Act Bool) :=
  openCall false ++ [.timeout false, .act false true] ++ openCall true
    ++ [.callback 0 true, .act true true, .act true true, .act true true]

/-- The second call takes it for its own, and returns true while its transfer is in flight. -/
example :
    ∃ s, lateRun.foldlM SPIController.step .init = some s ∧
      Event.returned true (some 1) true ∈ s.log ∧ 1 ∈ s.inFlight ∧ ¬ Honest s.log := by
  refine ⟨_, rfl, by decide, by decide, ?_⟩
  intro h
  exact absurd h.1 (by decide)

end WallController.ExtFlash.Spi
