/-
  WallController.ExtFlash.Refinement
  ────────────────────────────────
  **THE DRIVER IS A BYTE ARRAY.**

  A step that fails is counted in the trace, so that a call has run without
  failures exactly when the count has not grown.  Then each command has its
  effect on the array (`Runs`), each loop tiles its range, and the page-wise
  programs, the sector-wise erases and the chunked reads are one write, one
  erase and one read of the whole range.

  Main results:
    * `driver_refines`: the flash functions as functions on a byte array.
-/
import WallController.ExtFlash.Driver

namespace WallController.ExtFlash

open WallController.Lib

/-! ## §1. Calls without failures. -/

/-- The number of steps that have failed. -/
def Driver.faults (d : Driver) : Nat := d.log.countP Step.failed

/-- The driver has come from `d` to `d'`, and `P` holds if no step has failed
on the way. -/
structure Runs (d d' : Driver) (P : Prop) : Prop where
  setup : d'.bIsExtFlashSetupSuccess = d.bIsExtFlashSetupSuccess
  faults : d.faults ≤ d'.faults
  ok : d'.faults = d.faults → P

variable {env : Env} {d d' d'' : Driver} {P Q : Prop}

theorem Runs.refl (h : P) : Runs d d P := ⟨rfl, Nat.le_refl _, fun _ => h⟩

theorem Runs.mono (h : Runs d d' P) (hpq : P → Q) : Runs d d' Q :=
  ⟨h.setup, h.faults, fun hf => hpq (h.ok hf)⟩

theorem Runs.trans (h₁ : Runs d d' P) (h₂ : Runs d' d'' Q) : Runs d d'' (P ∧ Q) where
  setup := h₂.setup.trans h₁.setup
  faults := Nat.le_trans h₁.faults h₂.faults
  ok hf := by
    have hle₁ := h₁.faults
    have hle₂ := h₂.faults
    exact ⟨h₁.ok (by omega), h₂.ok (by omega)⟩

/-- A change that is no step. -/
theorem Runs.of_log_eq (hs : d'.bIsExtFlashSetupSuccess = d.bIsExtFlashSetupSuccess)
    (hl : d'.log = d.log) (h : P) : Runs d d' P := by
  have hf : d'.faults = d.faults := congrArg (List.countP Step.failed) hl
  exact ⟨hs, Nat.le_of_eq hf.symm, fun _ => h⟩

theorem runs_done (env : Env) (tx : List UInt8) (d : Driver) (h : P) :
    Runs d (d.done env tx) P := by
  have hf : (d.done env tx).faults = d.faults := List.countP_cons_of_neg (by simp [Step.failed])
  exact ⟨rfl, Nat.le_of_eq hf.symm, fun _ => h⟩

/-- After a failed step there is nothing to show. -/
theorem runs_failed {o : Step} (hs : d'.bIsExtFlashSetupSuccess = d.bIsExtFlashSetupSuccess)
    (hl : d'.log = o :: d.log) (ho : o.failed = true) : Runs d d' P := by
  have hf : d'.faults = d.faults + 1 := by
    unfold Driver.faults
    rw [hl]
    exact List.countP_cons_of_pos ho
  exact ⟨hs, by omega, fun h => by omega⟩

/-! ## §2. The transfers. -/

theorem bSPIWrite_runs (env : Env) (tx : List UInt8) (d : Driver) :
    Runs d (bSPIWrite env tx d).2 ((bSPIWrite env tx d).1 = true ∧
      (bSPIWrite env tx d).2.chip = d.chip.execute (env.busy d.now) tx) := by
  unfold bSPIWrite
  split
  · exact runs_done env tx d ⟨rfl, rfl⟩
  · exact runs_failed (o := .transfer tx false) rfl rfl rfl

theorem bSPITransceive_runs (env : Env) (tx : List UInt8) (d : Driver) :
    Runs d (bSPITransceive env tx d).2
      ((bSPITransceive env tx d).1 = some (d.chip.answer (env.others d.now) tx) ∧
        (bSPITransceive env tx d).2.chip = d.chip.execute (env.busy d.now) tx) := by
  unfold bSPITransceive
  split
  · exact runs_done env tx d ⟨rfl, rfl⟩
  · exact runs_failed (o := .transfer tx false) rfl rfl rfl

theorem bSPIMultiPhase_runs (env : Env) (cmd dummy : List UInt8) (n : Nat) (d : Driver) :
    Runs d (bSPIMultiPhaseTranseive env cmd dummy n d).2
      ((bSPIMultiPhaseTranseive env cmd dummy n d).1 = some (d.chip.quadAnswer n cmd dummy) ∧
        (bSPIMultiPhaseTranseive env cmd dummy n d).2.chip
          = d.chip.execute (env.busy d.now) (cmd ++ dummy)) := by
  unfold bSPIMultiPhaseTranseive
  split
  · exact runs_done env (cmd ++ dummy) d ⟨rfl, rfl⟩
  · exact runs_failed (o := .transfer (cmd ++ dummy) false) rfl rfl rfl

/-! ## §3. The status register. -/

theorem status_toNat (uiOthers : Nat) (c : Chip) :
    (c.status uiOthers).toNat
      = (uiOthers * 4 + c.WEL.toNat * 2 + (decide (0 < c.busy)).toNat) % 256 :=
  UInt8.toNat_ofNat

@[simp] theorem bIsBusy_status (uiOthers : Nat) (c : Chip) :
    bIsBusy (c.status uiOthers) = decide (0 < c.busy) := by
  unfold bIsBusy
  rw [status_toNat]
  cases decide (0 < c.busy) with
  | false =>
      have heven : ¬ (uiOthers * 4 + c.WEL.toNat * 2 + false.toNat) % 256 % 2 = 1 := by
        rw [Bool.toNat_false]
        omega
      exact decide_eq_false heven
  | true =>
      have hodd : (uiOthers * 4 + c.WEL.toNat * 2 + true.toNat) % 256 % 2 = 1 := by
        rw [Bool.toNat_true]
        omega
      exact decide_eq_true hodd

@[simp] theorem bIsWriteEnabled_status (uiOthers : Nat) (c : Chip) :
    bIsWriteEnabled (c.status uiOthers) = c.WEL := by
  unfold bIsWriteEnabled
  rw [status_toNat]
  have hwip : (decide (0 < c.busy)).toNat ≤ 1 := Bool.toNat_le _
  cases c.WEL with
  | false =>
      have hclear : ¬ (uiOthers * 4 + false.toNat * 2 + (decide (0 < c.busy)).toNat)
          % 256 / 2 % 2 = 1 := by
        rw [Bool.toNat_false]
        omega
      exact decide_eq_false hclear
  | true =>
      have hset : (uiOthers * 4 + true.toNat * 2 + (decide (0 < c.busy)).toNat)
          % 256 / 2 % 2 = 1 := by
        rw [Bool.toNat_true]
        omega
      exact decide_eq_true hset

/-- A status read, where `status` is that of the chip. -/
theorem bReadStatusRegister_runs (env : Env) (d : Driver) :
    Runs d (bReadStatusRegister env d).2 ((bReadStatusRegister env d).1 = true ∧
      (bReadStatusRegister env d).2.Flash_StatusReg = d.chip.status (env.others d.now) ∧
      (bReadStatusRegister env d).2.chip = { d.chip with busy := d.chip.busy - 1 }) := by
  have hread := bSPITransceive_runs env [STATUS_REG_READ_CMD, 0] d
  unfold bReadStatusRegister
  generalize bSPITransceive env [STATUS_REG_READ_CMD, 0] d = r at hread ⊢
  obtain ⟨rx, d₁⟩ := r
  cases rx with
  | none => exact hread.mono fun h => by cases h.1
  | some uiRxData =>
      have hkeep : Runs d₁ { d₁ with Flash_StatusReg := uiRxData.getD 1 0 } True :=
        .of_log_eq rfl rfl trivial
      refine (hread.trans hkeep).mono ?_
      intro ⟨⟨hrx, hchip⟩, _⟩
      obtain rfl := Option.some.inj hrx
      exact ⟨rfl, rfl, hchip⟩

theorem bExtFlashWriteEnable_runs (env : Env) (d : Driver) :
    Runs d (bExtFlashWriteEnable env d).2 ((bExtFlashWriteEnable env d).1 = true ∧
      (bExtFlashWriteEnable env d).2.chip.mem = d.chip.mem ∧
      (bExtFlashWriteEnable env d).2.chip.WEL = true) := by
  have hwrite := bSPIWrite_runs env [WRITE_ENABLE_CMD] d
  unfold bExtFlashWriteEnable
  generalize bSPIWrite env [WRITE_ENABLE_CMD] d = r at hwrite ⊢
  obtain ⟨bRes, d₁⟩ := r
  cases bRes with
  | false => exact hwrite.mono fun h => by cases h.1
  | true =>
      dsimp only
      rw [if_neg (by decide)]
      have hstatus := bReadStatusRegister_runs env d₁
      generalize bReadStatusRegister env d₁ = r at hstatus ⊢
      obtain ⟨bRes, d₂⟩ := r
      cases bRes with
      | false => exact (hwrite.trans hstatus).mono fun h => by cases h.2.1
      | true =>
          dsimp only
          rw [if_neg (by decide)]
          refine (hwrite.trans hstatus).mono ?_
          intro ⟨⟨_, hchip₁⟩, _, hreg, hchip₂⟩
          have hset : d.chip.execute (env.busy d.now) [WRITE_ENABLE_CMD]
              = { d.chip with WEL := true } := rfl
          dsimp only at hchip₁ hchip₂ hreg ⊢
          rw [hset] at hchip₁
          rw [hreg, bIsWriteEnabled_status, hchip₂, hchip₁]
          exact ⟨rfl, rfl, rfl⟩

theorem bGetExtFlashBusy_runs (env : Env) (d : Driver) :
    Runs d (bGetExtFlashBusy env d).2
      ((bGetExtFlashBusy env d).1 = some (decide (0 < d.chip.busy)) ∧
        (bGetExtFlashBusy env d).2.chip = { d.chip with busy := d.chip.busy - 1 }) := by
  have hstatus := bReadStatusRegister_runs env d
  unfold bGetExtFlashBusy
  generalize bReadStatusRegister env d = r at hstatus ⊢
  obtain ⟨bRes, d₁⟩ := r
  cases bRes with
  | false => exact hstatus.mono fun h => by cases h.1
  | true =>
      refine hstatus.mono ?_
      intro ⟨_, hreg, hchip⟩
      refine ⟨?_, hchip⟩
      show some (bIsBusy d₁.Flash_StatusReg) = _
      rw [show d₁.Flash_StatusReg = _ from hreg, bIsBusy_status]

theorem bIsExtFlashWELCleared_runs (env : Env) (d : Driver) :
    Runs d (bIsExtFlashWELCleared env d).2 ((bIsExtFlashWELCleared env d).1 = !d.chip.WEL ∧
      (bIsExtFlashWELCleared env d).2.chip = { d.chip with busy := d.chip.busy - 1 }) := by
  have hstatus := bReadStatusRegister_runs env d
  unfold bIsExtFlashWELCleared
  generalize bReadStatusRegister env d = r at hstatus ⊢
  obtain ⟨bRes, d₁⟩ := r
  cases bRes with
  | false => exact hstatus.mono fun h => by cases h.1
  | true =>
      refine hstatus.mono ?_
      intro ⟨_, hreg, hchip⟩
      refine ⟨?_, hchip⟩
      show (!bIsWriteEnabled d₁.Flash_StatusReg) = _
      rw [show d₁.Flash_StatusReg = _ from hreg, bIsWriteEnabled_status]

/-- **The poll** ends once the chip is ready, by induction on the status reads
for which it is busy.  What the loop needs is known only as long as no step has
failed, hence the start `d₀` of the call. -/
theorem pollLoop_runs (env : Env) (uiTimeout_ms : Nat) (uiStartTime : UInt32) {fuel : Nat}
    {mem : Mem} {d₀ d : Driver}
    (h : Runs d₀ d (d.chip.busy < fuel ∧ d.chip.WEL = false ∧ d.chip.mem = mem)) :
    Runs d₀ (pollLoop env uiTimeout_ms uiStartTime fuel d).2
      ((pollLoop env uiTimeout_ms uiStartTime fuel d).1 = 0 ∧
        (pollLoop env uiTimeout_ms uiStartTime fuel d).2.chip.mem = mem) := by
  induction fuel generalizing d with
  -- no fuel would mean more busy reads than the chip makes
  | zero => exact h.mono fun hpre => absurd hpre.1 (Nat.not_lt_zero _)
  | succ fuel ih =>
      have hget := bGetExtFlashBusy_runs env d
      unfold pollLoop
      generalize bGetExtFlashBusy env d = r at hget ⊢
      obtain ⟨busy?, d₁⟩ := r
      have hboth := h.trans hget
      match busy? with
      -- the status read has failed
      | none => exact hboth.mono fun hpre => by cases hpre.2.1
      | some true =>
          dsimp only
          split
          · have htimeout : Runs d₁ { d₁ with log := .timedOut :: d₁.log } False :=
              -- a timeout is a step that fails, so nothing is owed behind it
              runs_failed (o := .timedOut) rfl rfl rfl
            exact (hboth.trans htimeout).mono fun hpre => hpre.2.elim
          · refine ih (hboth.mono ?_)
            intro ⟨⟨hbusy, hwel, hmem⟩, hflag, hchip⟩
            -- the chip was busy at this read, and is so for one read less
            have hpos : 0 < d.chip.busy := of_decide_eq_true (Option.some.inj hflag).symm
            dsimp only at hchip
            rw [hchip]
            have hless : d.chip.busy - 1 < fuel := by omega
            exact ⟨hless, hwel, hmem⟩
      | some false =>
          dsimp only
          have hcleared := bIsExtFlashWELCleared_runs env d₁
          generalize bIsExtFlashWELCleared env d₁ = r at hcleared ⊢
          obtain ⟨bCleared, d₂⟩ := r
          cases bCleared with
          | false =>
              refine (hboth.trans hcleared).mono ?_
              intro ⟨⟨⟨_, hwel, _⟩, _, hchip⟩, hflag, _⟩
              dsimp only at hchip hflag
              -- the write enable latch was clear from the start
              rw [hchip] at hflag
              dsimp only at hflag
              rw [hwel] at hflag
              cases hflag
          | true =>
              refine (hboth.trans hcleared).mono ?_
              intro ⟨⟨⟨_, _, hmem⟩, _, hchip⟩, _, hchip₂⟩
              dsimp only at hchip hchip₂
              refine ⟨rfl, ?_⟩
              show d₂.chip.mem = mem
              rw [hchip₂, hchip]
              exact hmem

theorem iPollExtBusyStatusSync_runs (env : Env) (uiTimeout_ms : Nat) {mem : Mem} {d₀ d : Driver}
    (h : Runs d₀ d (d.chip.WEL = false ∧ d.chip.mem = mem)) :
    Runs d₀ (iPollExtBusyStatusSync env uiTimeout_ms d).2
      ((iPollExtBusyStatusSync env uiTimeout_ms d).1 = 0 ∧
        (iPollExtBusyStatusSync env uiTimeout_ms d).2.chip.mem = mem) :=
  pollLoop_runs env uiTimeout_ms _ (h.mono fun hpre => ⟨Nat.lt_succ_self _, hpre.1, hpre.2⟩)

/-! ## §4. Programs and erases. -/

/-- The address bytes of a command arrive as the address. -/
theorem address_bytes {uiMemAddr : Nat} (h : uiMemAddr < EXT_FLASH_TOTAL_SIZE_BYTEs) :
    Chip.address (UInt8.ofNat (uiMemAddr / 65536)) (UInt8.ofNat (uiMemAddr / 256))
      (UInt8.ofNat uiMemAddr) = uiMemAddr := by
  unfold Chip.address
  unfold EXT_FLASH_TOTAL_SIZE_BYTEs at *
  simp only [UInt8.toNat_ofNat']
  omega

theorem execute_program {uiBusy uiMemAddr : Nat} {c : Chip} {data : List UInt8}
    (hwel : c.WEL = true) (h : uiMemAddr < EXT_FLASH_TOTAL_SIZE_BYTEs) :
    c.execute uiBusy (addressedCMD EXT_FLASH_WRITE_CMD uiMemAddr ++ data)
      = { mem := c.mem.program EXT_FLASH_PAGE_SIZE_BYTEs uiMemAddr data
          WEL := false
          busy := uiBusy } := by
  show (if c.WEL = false then c else if EXT_FLASH_WRITE_CMD = EXT_FLASH_WRITE_CMD then _ else _) = _
  rw [if_neg (by rw [hwel]; decide), if_pos rfl, address_bytes h]
  rfl

theorem execute_erase {uiBusy uiMemAddr : Nat} {c : Chip} (hwel : c.WEL = true)
    (h : uiMemAddr < EXT_FLASH_TOTAL_SIZE_BYTEs) :
    c.execute uiBusy (addressedCMD EXT_FLASH_4KB_SECTOR_ERASE uiMemAddr)
      = { mem := c.mem.eraseSector EXT_FLASH_SECTOR_SIZE_BYTES uiMemAddr
          WEL := false
          busy := uiBusy } := by
  show (if c.WEL = false then c else if EXT_FLASH_4KB_SECTOR_ERASE = EXT_FLASH_WRITE_CMD then _
    else if EXT_FLASH_4KB_SECTOR_ERASE = EXT_FLASH_4KB_SECTOR_ERASE then _ else _) = _
  rw [if_neg (by rw [hwel]; decide), if_neg (by decide), if_pos rfl, address_bytes h]

/-- A command that needs the latch: enable, send, poll. -/
theorem enabledCommand_runs {tx : List UInt8} {m m' : Mem} {uiTimeout_ms : Nat} {d₀ d : Driver}
    (h : Runs d₀ d (d.chip.mem = m))
    (hexec : ∀ uiBusy (c : Chip), c.WEL = true → c.mem = m →
      (c.execute uiBusy tx).WEL = false ∧ (c.execute uiBusy tx).mem = m')
    {d₁ d₂ d₃ : Driver} {bEnabled bRes : Bool} {iResult : Int}
    (henable : bExtFlashWriteEnable env d = (bEnabled, d₁))
    (hsend : bSPIWrite env tx d₁ = (bRes, d₂))
    (hpoll : iPollExtBusyStatusSync env uiTimeout_ms d₂ = (iResult, d₃)) :
    Runs d₀ d₁ (bEnabled = true) ∧ Runs d₀ d₂ (bRes = true) ∧
      Runs d₀ d₃ (iResult = 0 ∧ d₃.chip.mem = m') := by
  have h₁ := h.trans (bExtFlashWriteEnable_runs env d)
  rw [henable] at h₁
  have h₂ := h₁.trans (bSPIWrite_runs env tx d₁)
  rw [hsend] at h₂
  have h₃ := @iPollExtBusyStatusSync_runs env uiTimeout_ms m' d₀ d₂ (h₂.mono (by
    intro ⟨⟨hmem, _, hmem₁, hwel₁⟩, _, hchip⟩
    obtain ⟨hwel', hmem'⟩ := hexec (env.busy d₁.now) d₁.chip hwel₁ (hmem₁.trans hmem)
    dsimp only at hchip
    rw [hchip]
    exact ⟨hwel', hmem'⟩))
  rw [hpoll] at h₃
  exact ⟨h₁.mono fun hpre => hpre.2.1, h₂.mono fun hpre => hpre.2.1, h₃⟩

/-- **The write loop**: the pages tile the range. -/
theorem writeLoop_runs (env : Env) {fuel uiMemAddr : Nat} {puiData : List UInt8} {m : Mem}
    {d₀ d : Driver} (hfuel : puiData.length ≤ fuel)
    (hend : uiMemAddr + puiData.length ≤ EXT_FLASH_TOTAL_SIZE_BYTEs)
    (h : Runs d₀ d (d.chip.mem = m)) :
    Runs d₀ (writeLoop env fuel uiMemAddr puiData d).2
      ((writeLoop env fuel uiMemAddr puiData d).1 = 0 ∧
        (writeLoop env fuel uiMemAddr puiData d).2.chip.mem = m.andWrite uiMemAddr puiData) := by
  induction fuel generalizing uiMemAddr puiData m d with
  | zero =>
      have hnil : puiData = [] := List.eq_nil_of_length_eq_zero (by omega)
      subst hnil
      exact h.mono fun hmem => ⟨rfl, by rw [Mem.andWrite_nil]; exact hmem⟩
  | succ fuel ih =>
      unfold writeLoop
      dsimp only
      by_cases hlen : puiData.length > 0
      · rw [if_pos hlen]
        generalize hcur : (if EXT_FLASH_PAGE_SIZE_BYTEs - uiMemAddr % 256 > puiData.length
          then puiData.length else EXT_FLASH_PAGE_SIZE_BYTEs - uiMemAddr % 256) = n
        -- the chunk is not empty, and it does not leave the page
        have hn : 0 < n ∧ n ≤ puiData.length ∧ uiMemAddr % 256 + n ≤ 256 := by
          unfold EXT_FLASH_PAGE_SIZE_BYTEs at hcur
          split at hcur <;> omega
        have htake : (puiData.take n).length = n := List.length_take_of_le hn.2.1
        have hexec : ∀ uiBusy (c : Chip), c.WEL = true → c.mem = m →
            (c.execute uiBusy (addressedCMD EXT_FLASH_WRITE_CMD uiMemAddr
              ++ puiData.take n)).WEL = false ∧
            (c.execute uiBusy (addressedCMD EXT_FLASH_WRITE_CMD uiMemAddr
              ++ puiData.take n)).mem = m.andWrite uiMemAddr (puiData.take n) := by
          intro uiBusy c hwel hmem
          rw [execute_program hwel (by omega)]
          refine ⟨rfl, ?_⟩
          show c.mem.program EXT_FLASH_PAGE_SIZE_BYTEs uiMemAddr (puiData.take n) = _
          have hpage : uiMemAddr % EXT_FLASH_PAGE_SIZE_BYTEs + (puiData.take n).length
              ≤ EXT_FLASH_PAGE_SIZE_BYTEs := by
            rw [htake]
            exact hn.2.2
          rw [hmem, Mem.program_eq hpage]
        generalize henable : bExtFlashWriteEnable env d = r₁
        obtain ⟨bEnabled, d₁⟩ := r₁
        generalize hsend : bSPIWrite env (addressedCMD EXT_FLASH_WRITE_CMD uiMemAddr
          ++ puiData.take n) d₁ = r₂
        obtain ⟨bRes, d₂⟩ := r₂
        generalize hpoll : iPollExtBusyStatusSync env 50 d₂ = r₃
        obtain ⟨iResult, d₃⟩ := r₃
        obtain ⟨h₁, h₂, h₃⟩ := enabledCommand_runs h hexec henable hsend hpoll
        cases bEnabled with
        | false => exact h₁.mono fun hpre => by cases hpre
        | true =>
            simp only [Bool.not_true, Bool.false_eq_true, if_false]
            cases bRes with
            | false => exact h₂.mono fun hpre => by cases hpre
            | true =>
                simp only [Bool.not_true, Bool.false_eq_true, if_false]
                by_cases hres : iResult ≠ 0
                · rw [if_pos hres]
                  exact h₃.mono fun hpre => absurd hpre.1 hres
                · rw [if_neg hres]
                  -- the rest of the range
                  have hnext : (uiMemAddr + n) % 4294967296 = uiMemAddr + n := by
                    unfold EXT_FLASH_TOTAL_SIZE_BYTEs at hend
                    omega
                  have hdrop : (puiData.drop n).length = puiData.length - n := List.length_drop
                  rw [hnext]
                  have hrest := @ih (uiMemAddr + n) (puiData.drop n)
                    (m.andWrite uiMemAddr (puiData.take n)) d₃ (by omega) (by omega)
                    (h₃.mono fun hpre => hpre.2)
                  refine hrest.mono ?_
                  intro ⟨hzero, hmem⟩
                  refine ⟨hzero, hmem.trans ?_⟩
                  have happend := @Mem.andWrite_append m uiMemAddr (puiData.take n)
                    (puiData.drop n)
                  rw [htake, List.take_append_drop] at happend
                  exact happend
      · rw [if_neg hlen]
        have hnil : puiData = [] := List.eq_nil_of_length_eq_zero (by omega)
        subst hnil
        exact h.mono fun hmem => ⟨rfl, by rw [Mem.andWrite_nil]; exact hmem⟩

/-- One sector. -/
theorem iEraseFlash4KB_runs (env : Env) {uiAddr : Nat} {m : Mem} {d₀ d : Driver}
    (hsetup : d₀.bIsExtFlashSetupSuccess = true) (haligned : EXT_FLASH_SECTOR_SIZE_BYTES ∣ uiAddr)
    (hend : uiAddr < EXT_FLASH_TOTAL_SIZE_BYTEs) (h : Runs d₀ d (d.chip.mem = m)) :
    Runs d₀ (iEraseFlash4KB env uiAddr d).2 ((iEraseFlash4KB env uiAddr d).1 = 0 ∧
      (iEraseFlash4KB env uiAddr d).2.chip.mem
        = m.fill uiAddr EXT_FLASH_SECTOR_SIZE_BYTES 0xFF) := by
  have hset : d.bIsExtFlashSetupSuccess = true := h.setup.trans hsetup
  have hmod : uiAddr % EXT_FLASH_SECTOR_SIZE_BYTES = 0 := Nat.mod_eq_zero_of_dvd haligned
  have hexec : ∀ uiBusy (c : Chip), c.WEL = true → c.mem = m →
      (c.execute uiBusy (addressedCMD EXT_FLASH_4KB_SECTOR_ERASE uiAddr)).WEL = false ∧
      (c.execute uiBusy (addressedCMD EXT_FLASH_4KB_SECTOR_ERASE uiAddr)).mem
        = m.fill uiAddr EXT_FLASH_SECTOR_SIZE_BYTES 0xFF := by
    intro uiBusy c hwel hmem
    rw [execute_erase hwel hend]
    refine ⟨rfl, ?_⟩
    show c.mem.eraseSector EXT_FLASH_SECTOR_SIZE_BYTES uiAddr = _
    rw [hmem, Mem.eraseSector_eq (by decide) haligned]
  unfold iEraseFlash4KB
  rw [if_neg (not_not.mpr hmod), hset]
  simp only [Bool.not_true, Bool.false_eq_true, if_false]
  generalize henable : bExtFlashWriteEnable env d = r₁
  obtain ⟨bEnabled, d₁⟩ := r₁
  generalize hsend : bSPIWrite env (addressedCMD EXT_FLASH_4KB_SECTOR_ERASE uiAddr) d₁ = r₂
  obtain ⟨bRes, d₂⟩ := r₂
  generalize hpoll : iPollExtBusyStatusSync env 2000 d₂ = r₃
  obtain ⟨iResult, d₃⟩ := r₃
  obtain ⟨h₁, h₂, h₃⟩ := enabledCommand_runs h hexec henable hsend hpoll
  cases bEnabled with
  | false => exact h₁.mono fun hpre => by cases hpre
  | true =>
      simp only [Bool.not_true, Bool.false_eq_true, if_false]
      cases bRes with
      | false => exact h₂.mono fun hpre => by cases hpre
      | true =>
          simp only [Bool.not_true, Bool.false_eq_true, if_false]
          exact h₃

/-- **The erase loop**: the sectors tile the range. -/
theorem eraseLoop_runs (env : Env) {fuel uiCurrentAddress : Nat} {m : Mem} {d₀ d : Driver}
    (hsetup : d₀.bIsExtFlashSetupSuccess = true)
    (haligned : EXT_FLASH_SECTOR_SIZE_BYTES ∣ uiCurrentAddress)
    (hend : uiCurrentAddress + uiEraseBlockSize * fuel ≤ EXT_FLASH_TOTAL_SIZE_BYTEs)
    (h : Runs d₀ d (d.chip.mem = m)) :
    Runs d₀ (eraseLoop env fuel uiCurrentAddress (uiEraseBlockSize * fuel) d).2
      ((eraseLoop env fuel uiCurrentAddress (uiEraseBlockSize * fuel) d).1 = 0 ∧
        (eraseLoop env fuel uiCurrentAddress (uiEraseBlockSize * fuel) d).2.chip.mem
          = m.fill uiCurrentAddress (uiEraseBlockSize * fuel) 0xFF) := by
  induction fuel generalizing uiCurrentAddress m d with
  | zero => exact h.mono fun hmem => ⟨rfl, by rw [Nat.mul_zero, Mem.fill_zero]; exact hmem⟩
  | succ fuel ih =>
      have hsize : uiEraseBlockSize * (fuel + 1) = uiEraseBlockSize + uiEraseBlockSize * fuel := by
        rw [Nat.mul_succ, Nat.add_comm]
      rw [hsize] at hend ⊢
      have hless : uiCurrentAddress < EXT_FLASH_TOTAL_SIZE_BYTEs := by
        unfold uiEraseBlockSize at hend
        omega
      have hsector := iEraseFlash4KB_runs env hsetup haligned hless h
      unfold eraseLoop
      rw [if_pos (by unfold uiEraseBlockSize; omega)]
      generalize iEraseFlash4KB env uiCurrentAddress d = r at hsector ⊢
      obtain ⟨iResult, d₁⟩ := r
      dsimp only at hsector ⊢
      by_cases hres : iResult < 0
      · rw [if_pos hres]
        exact hsector.mono fun hpre => by have := hpre.1; omega
      · rw [if_neg hres]
        have hnext : (uiCurrentAddress + uiEraseBlockSize) % 4294967296
            = uiCurrentAddress + uiEraseBlockSize := by
          unfold uiEraseBlockSize EXT_FLASH_TOTAL_SIZE_BYTEs at *
          omega
        rw [hnext, Nat.add_sub_cancel_left]
        have hdvd : EXT_FLASH_SECTOR_SIZE_BYTES ∣ uiCurrentAddress + uiEraseBlockSize :=
          Nat.dvd_add haligned (Nat.dvd_refl _)
        have hrest := ih hdvd (by omega) (hsector.mono fun hpre => hpre.2)
        refine hrest.mono ?_
        intro ⟨hzero, hmem⟩
        exact ⟨hzero, hmem.trans Mem.fill_add⟩

/-! ## §5. Reads. -/

/-- A range inside the chip is sent as it is stored. -/
theorem send_eq {c : Chip} {uiAddr n : Nat} (h : uiAddr + n ≤ EXT_FLASH_TOTAL_SIZE_BYTEs) :
    c.send uiAddr n = c.mem.read uiAddr n := by
  unfold Chip.send Mem.read
  apply List.map_congr_left
  intro i hi
  have hlt : i < n := List.mem_range.mp hi
  rw [Nat.mod_eq_of_lt (by omega)]

/-- What the chip sends for a read: the first four bytes come in while the
command goes out. -/
theorem answer_read {uiOthers uiMemAddr : Nat} {c : Chip} {clocks : List UInt8}
    (hstart : uiMemAddr < EXT_FLASH_TOTAL_SIZE_BYTEs)
    (h : uiMemAddr + clocks.length ≤ EXT_FLASH_TOTAL_SIZE_BYTEs) :
    c.answer uiOthers (addressedCMD EXT_FLASH_READ_CMD uiMemAddr ++ clocks)
      = List.replicate 4 0xFF ++ c.mem.read uiMemAddr clocks.length := by
  show List.replicate 4 0xFF ++ (if EXT_FLASH_READ_CMD = EXT_FLASH_READ_CMD then
    c.send (Chip.address _ _ _) clocks.length else List.replicate clocks.length 0xFF) = _
  rw [if_pos rfl, address_bytes hstart, send_eq h]

theorem quadAnswer_read {uiMemAddr n : Nat} {c : Chip}
    (hstart : uiMemAddr < EXT_FLASH_TOTAL_SIZE_BYTEs)
    (h : uiMemAddr + n ≤ EXT_FLASH_TOTAL_SIZE_BYTEs) :
    c.quadAnswer n (addressedCMD EXT_FLASH_QUAD_READ_CMD uiMemAddr) [0]
      = c.mem.read uiMemAddr n := by
  show (if EXT_FLASH_QUAD_READ_CMD = EXT_FLASH_QUAD_READ_CMD then
    c.send (Chip.address _ _ _) n else List.replicate n 0xFF) = _
  rw [if_pos rfl, address_bytes hstart, send_eq h]

/-- The part of a range that has been read, and the loop state that goes with it. -/
structure ReadSoFar (m : Mem) (uiAddr uiDataLen fuel uiMemAddr : Nat) (puiRecvData : List UInt8)
    (d : Driver) : Prop where
  mem : d.chip.mem = m
  bytes : puiRecvData = m.read uiAddr puiRecvData.length
  addr : uiMemAddr = uiAddr + puiRecvData.length
  le : puiRecvData.length ≤ uiDataLen
  fuel : uiDataLen ≤ fuel + puiRecvData.length

/-- One more chunk of at least one byte. -/
theorem ReadSoFar.chunk {m : Mem} {uiAddr uiDataLen fuel uiMemAddr n : Nat}
    {puiRecvData chunk : List UInt8}
    (h : ReadSoFar m uiAddr uiDataLen (fuel + 1) uiMemAddr puiRecvData d)
    (hn : 0 < n ∧ n ≤ uiDataLen - puiRecvData.length) (hchunk : chunk = m.read uiMemAddr n)
    (hmem : d'.chip.mem = m) :
    ReadSoFar m uiAddr uiDataLen fuel (uiMemAddr + n) (puiRecvData ++ chunk) d' := by
  have hlen : (puiRecvData ++ chunk).length = puiRecvData.length + n := by
    rw [List.length_append, hchunk, Mem.length_read]
  have hle := h.le
  have hfuel := h.fuel
  have haddr := h.addr
  refine ⟨hmem, ?_, ?_, ?_, ?_⟩
  · rw [hlen, Mem.read_add, ← h.bytes, ← haddr, hchunk]
  · omega
  · omega
  · omega

/-- The end of a read loop. -/
theorem ReadSoFar.whole {m : Mem} {uiAddr uiDataLen fuel uiMemAddr : Nat}
    {puiRecvData : List UInt8}
    (h : ReadSoFar m uiAddr uiDataLen fuel uiMemAddr puiRecvData d)
    (hend : ¬ puiRecvData.length < uiDataLen) :
    puiRecvData = m.read uiAddr uiDataLen ∧ d.chip.mem = m := by
  have hle := h.le
  have hlen : puiRecvData.length = uiDataLen := by omega
  have hbytes := h.bytes
  rw [hlen] at hbytes
  exact ⟨hbytes, h.mem⟩

theorem execute_read {uiBusy uiMemAddr : Nat} {c : Chip} {cmd : UInt8} {clocks : List UInt8}
    (h : cmd ≠ EXT_FLASH_WRITE_CMD ∧ cmd ≠ EXT_FLASH_4KB_SECTOR_ERASE) :
    c.execute uiBusy (addressedCMD cmd uiMemAddr ++ clocks) = c := by
  show (if c.WEL = false then c else if cmd = EXT_FLASH_WRITE_CMD then _
    else if cmd = EXT_FLASH_4KB_SECTOR_ERASE then _ else c) = _
  rw [if_neg h.1, if_neg h.2, ite_self]

/-- **The loop of the normal read**: the chunks tile the range. -/
theorem normalReadLoop_runs (env : Env) {uiAddr uiDataLen fuel uiMemAddr : Nat}
    {puiRecvData : List UInt8} {m : Mem} {d₀ d : Driver}
    (hend : uiAddr + uiDataLen ≤ EXT_FLASH_TOTAL_SIZE_BYTEs)
    (h : Runs d₀ d (ReadSoFar m uiAddr uiDataLen fuel uiMemAddr puiRecvData d)) :
    Runs d₀ (normalReadLoop env uiDataLen fuel uiMemAddr puiRecvData d).2.2
      ((normalReadLoop env uiDataLen fuel uiMemAddr puiRecvData d).1 = 0 ∧
        (normalReadLoop env uiDataLen fuel uiMemAddr puiRecvData d).2.1
          = m.read uiAddr uiDataLen ∧
        (normalReadLoop env uiDataLen fuel uiMemAddr puiRecvData d).2.2.chip.mem = m) := by
  induction fuel generalizing uiMemAddr puiRecvData d with
  | zero =>
      -- the fuel covers the bytes that are missing, so none is
      refine h.mono fun hpre => ⟨rfl, hpre.whole ?_⟩
      have hfuel := hpre.fuel
      omega
  | succ fuel ih =>
      unfold normalReadLoop
      dsimp only
      by_cases hlen : puiRecvData.length < uiDataLen
      · rw [if_pos hlen]
        generalize hcur : min (uiDataLen - puiRecvData.length) DEFAULT_READ_BUFF_LENGTH = n
        have hn : 0 < n ∧ n ≤ uiDataLen - puiRecvData.length := by
          unfold DEFAULT_READ_BUFF_LENGTH at hcur
          omega
        have hread := h.trans (bSPITransceive_runs env
          (addressedCMD EXT_FLASH_READ_CMD uiMemAddr ++ List.replicate n 0) d)
        generalize bSPITransceive env
          (addressedCMD EXT_FLASH_READ_CMD uiMemAddr ++ List.replicate n 0) d = r at hread ⊢
        obtain ⟨rx, d₁⟩ := r
        cases rx with
        | none => exact hread.mono fun hpre => by cases hpre.2.1
        | some uiRxData =>
            refine ih (hread.mono ?_)
            intro ⟨hpre, hrx, hchip⟩
            have hle := hpre.le
            have haddr := hpre.addr
            -- the range ends inside the chip, so the 32-bit address does not wrap
            have hnext : (uiMemAddr + n) % 4294967296 = uiMemAddr + n := by
              unfold EXT_FLASH_TOTAL_SIZE_BYTEs at hend
              omega
            rw [hnext]
            refine hpre.chunk hn ?_ ?_
            · obtain rfl := Option.some.inj hrx
              have hclocks : (List.replicate n (0 : UInt8)).length = n := List.length_replicate
              -- the chip answers with the bytes of this chunk
              rw [answer_read (by omega) (by omega), hclocks, ← hpre.mem]
              exact List.take_of_length_le (by simp)
            · dsimp only at hchip
              rw [hchip, execute_read (by decide)]
              exact hpre.mem
      · rw [if_neg hlen]
        exact h.mono fun hpre => ⟨rfl, hpre.whole hlen⟩

/-- **The loop of the quad read**: the transactions tile the range. -/
theorem quadReadLoop_runs (env : Env) {uiAddr uiDataLen fuel : Nat} {puiRecvData : List UInt8}
    {m : Mem} {d₀ d : Driver} (hend : uiAddr + uiDataLen ≤ EXT_FLASH_TOTAL_SIZE_BYTEs)
    (h : Runs d₀ d (ReadSoFar m uiAddr uiDataLen fuel (uiAddr + puiRecvData.length)
      puiRecvData d)) :
    Runs d₀ (quadReadLoop env uiAddr uiDataLen fuel puiRecvData d).2.2
      ((quadReadLoop env uiAddr uiDataLen fuel puiRecvData d).1 = 0 ∧
        (quadReadLoop env uiAddr uiDataLen fuel puiRecvData d).2.1 = m.read uiAddr uiDataLen ∧
        (quadReadLoop env uiAddr uiDataLen fuel puiRecvData d).2.2.chip.mem = m) := by
  induction fuel generalizing puiRecvData d with
  | zero =>
      -- the fuel covers the bytes that are missing, so none is
      refine h.mono fun hpre => ⟨rfl, hpre.whole ?_⟩
      have hfuel := hpre.fuel
      omega
  | succ fuel ih =>
      unfold quadReadLoop
      dsimp only
      by_cases hlen : puiRecvData.length < uiDataLen
      · rw [if_pos hlen]
        generalize hcur : min (uiDataLen - puiRecvData.length) QUAD_READ_MAX_TRANSACTION_LENGTH = n
        have hn : 0 < n ∧ n ≤ uiDataLen - puiRecvData.length := by
          unfold QUAD_READ_MAX_TRANSACTION_LENGTH at hcur
          omega
        have haddr : (uiAddr + puiRecvData.length) % 4294967296 = uiAddr + puiRecvData.length := by
          -- the range ends inside the chip, so the 32-bit address does not wrap
          unfold EXT_FLASH_TOTAL_SIZE_BYTEs at hend
          omega
        rw [haddr]
        have hread := h.trans (bSPIMultiPhase_runs env
          (addressedCMD EXT_FLASH_QUAD_READ_CMD (uiAddr + puiRecvData.length)) [0] n d)
        generalize bSPIMultiPhaseTranseive env
          (addressedCMD EXT_FLASH_QUAD_READ_CMD (uiAddr + puiRecvData.length)) [0] n d = r
          at hread ⊢
        obtain ⟨rx, d₁⟩ := r
        cases rx with
        | none => exact hread.mono fun hpre => by cases hpre.2.1
        | some uiRxData =>
            refine ih (hread.mono ?_)
            intro ⟨hpre, hrx, hchip⟩
            obtain rfl := Option.some.inj hrx
            rw [quadAnswer_read (by omega) (by omega), hpre.mem, List.length_append,
              Mem.length_read, ← Nat.add_assoc]
            refine hpre.chunk hn rfl ?_
            dsimp only at hchip
            rw [hchip, execute_read (by decide)]
            exact hpre.mem
      · rw [if_neg hlen]
        exact h.mono fun hpre => ⟨rfl, hpre.whole hlen⟩

/-! ## §6. The flash functions. -/

/-- The range is checked exactly against the chip. -/
theorem iValidateFlashRange_eq (tOffset : Int) (uiLength : Nat) :
    iValidateFlashRange tOffset uiLength
      = if tOffset < 0 ∨ (EXT_FLASH_TOTAL_SIZE_BYTEs : Int) < tOffset + uiLength then -EINVAL
        else 0 := by
  unfold iValidateFlashRange uiDeviceSize EXT_FLASH_TOTAL_SIZE_BYTEs
  by_cases hneg : tOffset < 0
  · rw [if_pos hneg, if_pos (Or.inl hneg)]
  rw [if_neg hneg]
  by_cases hstart : tOffset.toNat > 0x800000
  · rw [if_pos hstart, if_pos (Or.inr (by omega))]
  rw [if_neg hstart]
  by_cases hend : uiLength > 0x800000 - tOffset.toNat
  · rw [if_pos hend, if_pos (Or.inr (by omega))]
  · rw [if_neg hend, if_neg (by omega)]

theorem iValidateFlashRange_inside {uiAddr uiLength : Nat}
    (h : uiAddr + uiLength ≤ EXT_FLASH_TOTAL_SIZE_BYTEs) :
    iValidateFlashRange uiAddr uiLength = 0 := by
  rw [iValidateFlashRange_eq, if_neg (by omega)]

/-- A call, its result and its effect, if none of its steps fails. -/
structure Effect (d : Driver) (r : Int × Driver) (mem : Mem) : Prop where
  result : r.2.faults = d.faults → r.1 = 0
  mem : r.2.faults = d.faults → r.2.chip.mem = mem

theorem Runs.effect {r : Int × Driver} {mem : Mem} (h : Runs d r.2 (r.1 = 0 ∧ r.2.chip.mem = mem)) :
    Effect d r mem :=
  ⟨fun hf => (h.ok hf).1, fun hf => (h.ok hf).2⟩

theorem iZephyrFlashWrite_effect (env : Env) (hsetup : d.bIsExtFlashSetupSuccess = true)
    {uiAddr : Nat} {data : List UInt8}
    (h : uiAddr + data.length ≤ EXT_FLASH_TOTAL_SIZE_BYTEs) :
    Effect d (iZephyrFlashWrite env uiAddr (some data) data.length d)
      (d.chip.mem.andWrite uiAddr data) := by
  unfold iZephyrFlashWrite
  dsimp only
  rw [iValidateFlashRange_inside h, if_neg (by decide)]
  by_cases hlen : data.length = 0
  · rw [if_pos hlen]
    obtain rfl := List.eq_nil_of_length_eq_zero hlen
    exact ⟨fun _ => rfl, fun _ => Mem.andWrite_nil.symm⟩
  · have hblock : ¬ (uiAddr % uiWriteBlockSize ≠ 0 ∨ data.length % uiWriteBlockSize ≠ 0) := by
      unfold uiWriteBlockSize
      omega
    rw [if_neg hlen, if_neg (by simp), if_neg (by decide), Int.toNat_natCast, if_neg hblock]
    unfold iWriteDataToFlash
    dsimp only
    rw [if_neg hlen, if_neg (by rw [hsetup]; decide), List.take_length]
    exact (writeLoop_runs env (Nat.le_refl _) h (.refl rfl)).effect

theorem iZephyrFlashErase_effect (env : Env) (hsetup : d.bIsExtFlashSetupSuccess = true)
    {uiAddr uiLength : Nat} (haddr : EXT_FLASH_SECTOR_SIZE_BYTES ∣ uiAddr)
    (hlength : EXT_FLASH_SECTOR_SIZE_BYTES ∣ uiLength)
    (h : uiAddr + uiLength ≤ EXT_FLASH_TOTAL_SIZE_BYTEs) :
    Effect d (iZephyrFlashErase env uiAddr uiLength d) (d.chip.mem.fill uiAddr uiLength 0xFF) := by
  unfold iZephyrFlashErase
  dsimp only
  rw [iValidateFlashRange_inside h, if_neg (by decide)]
  by_cases hlen : uiLength = 0
  · rw [if_pos hlen, hlen]
    exact ⟨fun _ => rfl, fun _ => Mem.fill_zero.symm⟩
  · have hblock : ¬ (uiAddr % uiEraseBlockSize ≠ 0 ∨ uiLength % uiEraseBlockSize ≠ 0) := by
      have h₁ : uiAddr % uiEraseBlockSize = 0 := Nat.mod_eq_zero_of_dvd haddr
      have h₂ : uiLength % uiEraseBlockSize = 0 := Nat.mod_eq_zero_of_dvd hlength
      omega
    obtain ⟨sectors, rfl⟩ := hlength
    have hcount : EXT_FLASH_SECTOR_SIZE_BYTES * sectors / uiEraseBlockSize = sectors :=
      Nat.mul_div_cancel_left sectors (by decide)
    rw [if_neg hlen, if_neg (by decide), Int.toNat_natCast, if_neg hblock, hcount]
    exact (eraseLoop_runs env hsetup haddr h (.refl rfl)).effect

/-- The loop state before the first chunk. -/
theorem ReadSoFar.start (uiAddr uiDataLen : Nat) (d : Driver) :
    ReadSoFar d.chip.mem uiAddr uiDataLen uiDataLen uiAddr [] d :=
  ⟨rfl, rfl, rfl, Nat.zero_le _, Nat.le_refl _⟩

theorem iReadDataFromFlashNormal_runs (env : Env) (hsetup : d.bIsExtFlashSetupSuccess = true)
    {uiAddr uiDataLen : Nat} (hpos : 0 < uiDataLen)
    (h : uiAddr + uiDataLen ≤ EXT_FLASH_TOTAL_SIZE_BYTEs) :
    Runs d (iReadDataFromFlashNormal env uiAddr false uiDataLen d).2.2
      ((iReadDataFromFlashNormal env uiAddr false uiDataLen d).1 = 0 ∧
        (iReadDataFromFlashNormal env uiAddr false uiDataLen d).2.1
          = d.chip.mem.read uiAddr uiDataLen ∧
        (iReadDataFromFlashNormal env uiAddr false uiDataLen d).2.2.chip.mem = d.chip.mem) := by
  unfold iReadDataFromFlashNormal
  rw [if_neg (by rw [hsetup]; decide), if_neg (by omega), if_neg (by decide)]
  exact normalReadLoop_runs env h (.refl (.start uiAddr uiDataLen d))

theorem iReadDataFromFlashQuad_runs (env : Env) (hsetup : d.bIsExtFlashSetupSuccess = true)
    {uiAddr uiDataLen : Nat} (hpos : 0 < uiDataLen)
    (h : uiAddr + uiDataLen ≤ EXT_FLASH_TOTAL_SIZE_BYTEs) :
    Runs d (iReadDataFromFlashQuad env uiAddr false uiDataLen d).2.2
      ((iReadDataFromFlashQuad env uiAddr false uiDataLen d).1 = 0 ∧
        (iReadDataFromFlashQuad env uiAddr false uiDataLen d).2.1
          = d.chip.mem.read uiAddr uiDataLen ∧
        (iReadDataFromFlashQuad env uiAddr false uiDataLen d).2.2.chip.mem = d.chip.mem) := by
  unfold iReadDataFromFlashQuad
  rw [if_neg (by rw [hsetup]; decide), if_neg (by omega), if_neg (by decide)]
  exact quadReadLoop_runs env h (.refl (.start uiAddr uiDataLen d))

/-- The flash functions on the byte array of the chip. -/
structure DriverRefines (env : Env) (d : Driver) : Prop where
  /-- A range that leaves the chip is refused without a command. -/
  outside : ∀ (tOffset : Int) (uiLength : Nat),
    tOffset < 0 ∨ (EXT_FLASH_TOTAL_SIZE_BYTEs : Int) < tOffset + uiLength →
    (∀ pData, iZephyrFlashWrite env tOffset pData uiLength d = (-EINVAL, d)) ∧
    iZephyrFlashErase env tOffset uiLength d = (-EINVAL, d) ∧
    ∀ bIsDataNull, iZephyrFlashRead env tOffset bIsDataNull uiLength d = (-EINVAL, [], d)
  /-- So is an erase of at least one byte that is not aligned. -/
  misaligned : ∀ (tOffset : Int) (uiLength : Nat), uiLength ≠ 0 →
    ¬ ((EXT_FLASH_SECTOR_SIZE_BYTES : Int) ∣ tOffset ∧ EXT_FLASH_SECTOR_SIZE_BYTES ∣ uiLength) →
    iZephyrFlashErase env tOffset uiLength d = (-EINVAL, d)
  /-- Of no bytes there is nothing to do; the two read functions refuse. -/
  empty : ∀ uiAddr, uiAddr ≤ EXT_FLASH_TOTAL_SIZE_BYTEs →
    (∀ pData, iZephyrFlashWrite env uiAddr pData 0 d = (0, d)) ∧
    iZephyrFlashErase env uiAddr 0 d = (0, d) ∧
    (∀ bIsDataNull, iZephyrFlashRead env uiAddr bIsDataNull 0 d = (0, [], d)) ∧
    iReadDataFromFlashQuad env uiAddr false 0 d = (-EINVAL, [], d) ∧
    iReadDataFromFlashNormal env uiAddr false 0 d = (-EINVAL, [], d)
  /-- A write over erased bytes stores the given ones, and changes no other. -/
  write : ∀ uiAddr data, uiAddr + data.length ≤ EXT_FLASH_TOTAL_SIZE_BYTEs →
    d.chip.mem.Erased uiAddr data.length →
    Effect d (iZephyrFlashWrite env uiAddr (some data) data.length d)
      (d.chip.mem.write uiAddr data)
  erase : ∀ uiAddr uiLength, EXT_FLASH_SECTOR_SIZE_BYTES ∣ uiAddr →
    EXT_FLASH_SECTOR_SIZE_BYTES ∣ uiLength → uiAddr + uiLength ≤ EXT_FLASH_TOTAL_SIZE_BYTEs →
    Effect d (iZephyrFlashErase env uiAddr uiLength d) (d.chip.mem.fill uiAddr uiLength 0xFF)
  /-- Both read functions return the stored bytes. -/
  read : ∀ uiAddr uiLength, 0 < uiLength → uiAddr + uiLength ≤ EXT_FLASH_TOTAL_SIZE_BYTEs →
    ∀ r, r = iReadDataFromFlashQuad env uiAddr false uiLength d ∨
        r = iReadDataFromFlashNormal env uiAddr false uiLength d ∨
        r = iZephyrFlashRead env uiAddr false uiLength d →
      r.2.2.faults = d.faults →
        r.1 = 0 ∧ r.2.1 = d.chip.mem.read uiAddr uiLength ∧ r.2.2.chip.mem = d.chip.mem

/-- **The driver refines a byte array**, for every range and every run of the
SPI transfers. -/
theorem driver_refines (env : Env) (d : Driver) (hsetup : d.bIsExtFlashSetupSuccess = true) :
    DriverRefines env d where
  outside tOffset uiLength h := by
    -- a range outside the chip is refused before anything else
    have hrange : iValidateFlashRange tOffset uiLength = -EINVAL := by
      rw [iValidateFlashRange_eq, if_pos h]
    have hneg : -EINVAL < 0 := by decide
    refine ⟨fun pData => ?_, ?_, fun bIsDataNull => ?_⟩
    · unfold iZephyrFlashWrite
      rw [hrange, if_pos hneg]
    · unfold iZephyrFlashErase
      rw [hrange, if_pos hneg]
    · unfold iZephyrFlashRead
      rw [hrange, if_pos hneg]
  misaligned tOffset uiLength hlen h := by
    unfold iZephyrFlashErase
    dsimp only
    rw [iValidateFlashRange_eq]
    by_cases hrange : tOffset < 0 ∨ (EXT_FLASH_TOTAL_SIZE_BYTEs : Int) < tOffset + uiLength
    · rw [if_pos hrange, if_pos (by decide)]
    · have hblock : tOffset.toNat % uiEraseBlockSize ≠ 0 ∨ uiLength % uiEraseBlockSize ≠ 0 := by
        unfold uiEraseBlockSize
        unfold EXT_FLASH_SECTOR_SIZE_BYTES at h
        omega
      rw [if_neg hrange, if_neg (by decide), if_neg hlen, if_neg (by decide), if_pos hblock]
  empty uiAddr h := by
    have hrange : iValidateFlashRange uiAddr 0 = 0 := iValidateFlashRange_inside h
    have hpos : ¬ (0 : Int) < 0 := by decide
    refine ⟨fun pData => ?_, ?_, fun bIsDataNull => ?_, ?_, ?_⟩
    · unfold iZephyrFlashWrite
      rw [hrange, if_neg hpos, if_pos rfl]
    · unfold iZephyrFlashErase
      rw [hrange, if_neg hpos, if_pos rfl]
    · unfold iZephyrFlashRead
      rw [hrange, if_neg hpos, if_pos rfl]
    · unfold iReadDataFromFlashQuad
      rw [if_neg (by rw [hsetup]; decide), if_pos rfl]
    · unfold iReadDataFromFlashNormal
      rw [if_neg (by rw [hsetup]; decide), if_pos rfl]
  write uiAddr data h herased := by
    have heffect := iZephyrFlashWrite_effect env hsetup h
    -- on erased bytes the chip's AND with the data is the data
    rw [Mem.andWrite_erased herased] at heffect
    exact heffect
  erase uiAddr uiLength haddr hlength h := iZephyrFlashErase_effect env hsetup haddr hlength h
  read uiAddr uiLength hpos h := by
    have hquad := (iReadDataFromFlashQuad_runs env hsetup hpos h).ok
    rintro r (rfl | rfl | rfl)
    · exact hquad
    · exact (iReadDataFromFlashNormal_runs env hsetup hpos h).ok
    · have hread : iZephyrFlashRead env uiAddr false uiLength d
          -- the middleware reads through the quad read
          = iReadDataFromFlashQuad env uiAddr false uiLength d := by
        unfold iZephyrFlashRead
        rw [iValidateFlashRange_inside h, if_neg (by decide), if_neg (by omega),
          if_neg (by decide), Int.toNat_natCast]
      rw [hread]
      exact hquad

/-- Transfers that succeed, on a chip that is busy for two status reads. -/
def Env.ready : Env where
  spi _ := true
  wreck _ := ⟨fun _ => 0, false, 0⟩
  busy _ := 2
  others _ := 0x10
  k_uptime_get_32 _ := 0

/-- The driver of an erased chip, after its set-up. -/
def Driver.blank : Driver where
  bIsExtFlashSetupSuccess := true
  chip := ⟨fun _ => 0xFF, false, 0⟩
  Flash_StatusReg := 0
  log := []

/-- A write over the boundary of a page: the program of each page is one
command. -/
theorem driver_refines_boundary :
    DriverRefines Env.ready Driver.blank ∧
      (iZephyrFlashWrite Env.ready 255 (some [0x12, 0x34]) 2 Driver.blank).2.faults = 0 ∧
      (iZephyrFlashWrite Env.ready 255 (some [0x12, 0x34]) 2 Driver.blank).2.chip.mem.read 254 4
        = [0xFF, 0x12, 0x34, 0xFF] :=
  ⟨driver_refines Env.ready Driver.blank rfl, by decide +kernel, by decide +kernel⟩

/-- Of no bytes the functions differ: an erase returns at once, before its
alignment is checked, and a read is refused. -/
theorem driver_on_nothing :
    (¬ ∀ env d (tOffset : Int) uiLength,
      ¬ ((EXT_FLASH_SECTOR_SIZE_BYTES : Int) ∣ tOffset ∧ EXT_FLASH_SECTOR_SIZE_BYTES ∣ uiLength) →
        iZephyrFlashErase env tOffset uiLength d = (-EINVAL, d)) ∧
    ¬ ∀ env (d : Driver) uiAddr uiLength, d.bIsExtFlashSetupSuccess = true →
      uiAddr + uiLength ≤ EXT_FLASH_TOTAL_SIZE_BYTEs →
      (iReadDataFromFlashQuad env uiAddr false uiLength d).2.2.faults = d.faults →
        (iReadDataFromFlashQuad env uiAddr false uiLength d).1 = 0 := by
  constructor
  · intro h
    have hone := congrArg Prod.fst (h Env.ready Driver.blank 1 0 (by decide))
    revert hone
    decide +kernel
  · intro h
    have hnone := h Env.ready Driver.blank 0 0 rfl (by decide) (by decide +kernel)
    revert hnone
    decide +kernel

end WallController.ExtFlash
