/-
  WallController.ExtFlash.TransferResults
  ────────────────────────────────
  **THE RESULTS OF THE SPI FUNCTIONS.**

  `ExtFlash.Driver` takes a transfer as one step, whose end the environment
  decides; `ExtFlash.Transfers` has the calls step by step, and the interrupts.
  Here the first is a view of the second: each transfer of the driver is a call
  that a thread makes alone, and the result that the environment gives is the
  one that this call returns (`Served.transfer`, `served_of_log`).  The three
  functions differ in what they receive, not in this (`bSPIWrite_eq`,
  `bSPITransceive_eq`, `bSPIMultiPhaseTranseive_eq`).
-/
import WallController.ExtFlash.Driver
import WallController.ExtFlash.Transfers

namespace WallController.ExtFlash

open WallController.Lib Spi

/-! ## §1. One transfer of the driver. -/

variable {env : Env} {tx : List UInt8} {d : Driver}

/-- The next transfer, whatever function makes it. -/
def Driver.transferred (env : Env) (tx : List UInt8) (d : Driver) : Driver :=
  if env.spi d.now then d.done env tx else d.fail env tx

theorem bSPIWrite_eq : bSPIWrite env tx d = (env.spi d.now, d.transferred env tx) := by
  unfold bSPIWrite Driver.transferred
  cases env.spi d.now <;> rfl

theorem bSPITransceive_eq : bSPITransceive env tx d
    = (if env.spi d.now then some (d.chip.answer (env.others d.now) tx) else none,
      d.transferred env tx) := by
  unfold bSPITransceive Driver.transferred
  cases env.spi d.now <;> rfl

theorem bSPIMultiPhaseTranseive_eq {cmd dummy : List UInt8} {n : Nat} :
    bSPIMultiPhaseTranseive env cmd dummy n d
      = (if env.spi d.now then some (d.chip.quadAnswer n cmd dummy) else none,
        d.transferred env (cmd ++ dummy)) := by
  unfold bSPIMultiPhaseTranseive Driver.transferred
  cases env.spi d.now <;> rfl

theorem log_transferred : (d.transferred env tx).log = .transfer tx (env.spi d.now) :: d.log := by
  unfold Driver.transferred
  cases env.spi d.now <;> rfl

/-! ## §2. One call of a thread alone. -/

variable {ι : Type} [DecidableEq ι] {i : ι} {s : SPIController ι} {log : List Step}

/-- How a transfer ends: the driver library refuses it, no callback comes in time, or
its callback. -/
inductive TransferEnd where
  | refused
  | timedOut
  | completed (bSuccess : Bool)
  deriving DecidableEq, Repr

def TransferEnd.bSuccess : TransferEnd → Bool
  | .refused | .timedOut => false
  | .completed bSuccess => bSuccess

/-- The steps of a call, the number of whose transfer is `t`. -/
def callAlone (i : ι) (t : Nat) (e : TransferEnd) : List (Act ι) :=
  [.lock i, .act i true, .act i true]
    ++ match e with
      | .refused => [.act i false, .act i true]
      | .timedOut => [.act i true, .timeout i, .act i true]
      | .completed bSuccess =>
          [.act i true, .callback t bSuccess, .act i true, .act i true, .act i true]

/-- What a call of the thread has returned. -/
def resultOf (i : ι) : Event ι → Option Bool
  | .returned j _ bRes => if j = i then some bRes else none
  | .started _ _ | .completed _ _ => none

/-- Nobody is in a call. -/
structure Quiet (s : SPIController ι) : Prop where
  owner : s.owner = none
  outside : ∀ i, s.pc i = .outside

/-- The thread is about to start its transfer. -/
theorem prepared_alone (h : Quiet s) (i : ι) :
    [Act.lock i, .act i true, .act i true].foldlM SPIController.step s
      = some { s with
        owner := some i
        pc := Function.update s.pc i .ready
        stTSem_SPITransferDone := false
        eLastTransferResult := false } := by
  simp [SPIController.step, SPIController.act, SPIController.goto, h.owner, h.outside i]

/-- The end of a call: the thread gives the mutex back. -/
theorem Quiet.after (h : Quiet s) (i : ι) {s' : SPIController ι} (howner : s'.owner = none)
    (hpc : s'.pc = Function.update s.pc i .outside) : Quiet s' := by
  refine ⟨howner, fun j => ?_⟩
  rw [hpc]
  by_cases hj : j = i
  · rw [hj, Function.update_self]
  · rw [Function.update_of_ne hj]
    exact h.outside j

/-- A call alone returns how its transfer has ended. -/
theorem callAlone_returns (h : Quiet s) (i : ι) (e : TransferEnd) :
    ∃ s', (callAlone i s.started e).foldlM SPIController.step s = some s' ∧ Quiet s'
      ∧ s'.log.filterMap (resultOf i) = e.bSuccess :: s.log.filterMap (resultOf i) := by
  -- up to the submission every call makes the same steps
  have hprepared := prepared_alone h i
  cases e with
  | refused =>
      have hrun : (callAlone i s.started .refused).foldlM SPIController.step s
          = some { s with
            owner := none
            pc := Function.update s.pc i .outside
            stTSem_SPITransferDone := false
            eLastTransferResult := false
            log := .returned i none false :: s.log } := by
        unfold callAlone
        rw [List.foldlM_append, hprepared]
        simp [SPIController.step, SPIController.act, SPIController.goto]
      refine ⟨_, hrun, h.after i rfl rfl, ?_⟩
      simp [resultOf, TransferEnd.bSuccess]
  | timedOut =>
      have hrun : (callAlone i s.started .timedOut).foldlM SPIController.step s
          = some { s with
            owner := none
            pc := Function.update s.pc i .outside
            stTSem_SPITransferDone := false
            eLastTransferResult := false
            started := s.started + 1
            inFlight := s.started :: s.inFlight
            log := .returned i (some s.started) false :: .started i s.started :: s.log } := by
        unfold callAlone
        rw [List.foldlM_append, hprepared]
        simp [SPIController.step, SPIController.act, SPIController.timeout, SPIController.goto]
      refine ⟨_, hrun, h.after i rfl rfl, ?_⟩
      -- the transfer is abandoned: it stays in flight, and its completion comes too late
      simp [resultOf, TransferEnd.bSuccess, List.filterMap_cons]
  | completed bSuccess =>
      have hrun : (callAlone i s.started (.completed bSuccess)).foldlM SPIController.step s
          = some { s with
            owner := none
            pc := Function.update s.pc i .outside
            stTSem_SPITransferDone := false
            eLastTransferResult := bSuccess
            started := s.started + 1
            log := .returned i (some s.started) bSuccess :: .completed s.started bSuccess
              :: .started i s.started :: s.log } := by
        unfold callAlone
        rw [List.foldlM_append, hprepared]
        simp [SPIController.step, SPIController.act, SPIController.goto]
      refine ⟨_, hrun, h.after i rfl rfl, ?_⟩
      simp [resultOf, TransferEnd.bSuccess, List.filterMap_cons]

/-! ## §3. The driver. -/

/-- The result of a transfer. -/
def Step.result : Step → Option Bool
  | .transfer _ ok => some ok
  | .timedOut => none

/-- The transfers of the driver so far are the calls of a thread. -/
structure Served (i : ι) (log : List Step) (s : SPIController ι) : Prop where
  quiet : Quiet s
  results : log.filterMap Step.result = s.log.filterMap (resultOf i)

theorem Served.call (h : Served i log s) (tx : List UInt8) (e : TransferEnd) :
    ∃ s', (callAlone i s.started e).foldlM SPIController.step s = some s'
      ∧ Served i (.transfer tx e.bSuccess :: log) s' := by
  obtain ⟨s', hrun, hquiet, hresults⟩ := callAlone_returns h.quiet i e
  refine ⟨s', hrun, hquiet, ?_⟩
  rw [hresults, ← h.results]
  rfl

/-- **A transfer of the driver is a call**, where the environment decides as the transfer
of this call ends. -/
theorem Served.transfer (h : Served i d.log s) {e : TransferEnd}
    (henv : env.spi d.now = e.bSuccess) :
    ∃ s', (callAlone i s.started e).foldlM SPIController.step s = some s'
      ∧ Served i (d.transferred env tx).log s' := by
  rw [log_transferred, henv]
  exact h.call tx e

/-- **The driver sees what the controller returns**: the results of its transfers, whatever
they are, are those of calls from the start on. -/
theorem served_of_log (i : ι) (log : List Step) :
    ∃ s, (spiSystem ι).Reachable s ∧ Served i log s := by
  induction log with
  | nil => exact ⟨.init, .init rfl, ⟨rfl, fun _ => rfl⟩, rfl⟩
  | cons step log ih =>
      obtain ⟨s, hreach, hserved⟩ := ih
      cases step with
      | timedOut => exact ⟨s, hreach, hserved.quiet, hserved.results⟩
      | transfer tx ok =>
          obtain ⟨s', hrun, hserved'⟩ := hserved.call tx (.completed ok)
          exact ⟨s', .foldlM (fun _ _ _ hs => hs) hreach _ hrun, hserved'⟩

end WallController.ExtFlash
