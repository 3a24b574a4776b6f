/-
  WallController.ExtFlash.Setup
  ────────────────────────────────
  **THE SETUP OF THE FLASH COMES BEFORE ITS USE.**

  `bExec_Flash_InitialSetup` identifies the chip, sets and clears its write
  enable latch, and reads its parameter table; `bInit_ExtFlashHardware` keeps the
  result, which every flash function asks for.

  What a chip answers to the identification commands is a parameter (`Ident`):
  another chip may be fitted, or none.

  Main result:
    * `setup_before_use`: in every run the transfers of one whole setup precede
      the first access to the array, the chip is the expected one, and until then
      the array is untouched, unless a transfer has failed.
-/
import WallController.ExtFlash.Refinement
import WallController.Lib.Runs

namespace WallController.ExtFlash

open WallController.Lib

def JEDEC_ID_0 : UInt8 := 0xC2
def JEDEC_ID_1 : UInt8 := 0x28
def JEDEC_ID_2 : UInt8 := 0x17

def JEDEC_ID_REQ_CMD : UInt8 := 0x9F
def CONFIG_REG_READ_CMD : UInt8 := 0x15

def SFDP_MODE_CMD : UInt8 := 0x5A
def SFDP_MODE_ADDRESS : Nat := 0
def SFDP_RECV_BYTE0 : UInt8 := 0x53
def SFDP_RECV_BYTE1 : UInt8 := 0x46
def SFDP_RECV_BYTE2 : UInt8 := 0x44
def SFDP_RECV_BYTE3 : UInt8 := 0x50

/-! ## §1. The identification of a chip. -/

/-- What a chip says of itself: its JEDEC id, its two configuration registers and its table of
parameters. -/
structure Ident where
  jedec : Fin 3 → UInt8
  config : Fin 2 → UInt8
  sfdp : Nat → UInt8

/-- The bytes received during an identification command. -/
def Ident.answer (ident : Ident) : List UInt8 → List UInt8
  | [cmd, _, _, _] =>
    0xFF :: if cmd = JEDEC_ID_REQ_CMD then List.ofFn ident.jedec else List.replicate 3 0xFF
  | [cmd, _, _] =>
      0xFF :: if cmd = CONFIG_REG_READ_CMD then List.ofFn ident.config else List.replicate 2 0xFF
  | cmd :: a₂ :: a₁ :: a₀ :: _ :: clocks =>
    List.replicate 5 0xFF ++
      if cmd = SFDP_MODE_CMD then
        (List.range clocks.length).map fun i =>
          ident.sfdp (a₂.toNat * 65536 + a₁.toNat * 256 + a₀.toNat + i)
      else List.replicate clocks.length 0xFF
  | tx => List.replicate tx.length 0xFF

/-- `bSPI_Transceive` with an identification command. -/
def identTransceive (env : Env) (ident : Ident) (tx : List UInt8) (d : Driver) :
    Option (List UInt8) × Driver :=
  if env.spi d.now then (some (ident.answer tx), d.done env tx) else (none, d.fail env tx)

/-- `bGet_JEDEC_ID`. -/
def bGetJEDECID (env : Env) (ident : Ident) (d : Driver) : Bool × Driver :=
  match identTransceive env ident [JEDEC_ID_REQ_CMD, 0xFF, 0xFF, 0xFF] d with
  | (none, d) => (false, d)
  | (some uiRxData, d) =>
    (uiRxData.getD 1 0 = JEDEC_ID_0 && uiRxData.getD 2 0 = JEDEC_ID_1 &&
      uiRxData.getD 3 0 = JEDEC_ID_2, d)

/-- `bRead_Config_Registers`; nothing reads the registers that it keeps. -/
def bReadConfigRegisters (env : Env) (ident : Ident) (d : Driver) : Bool × Driver :=
  match identTransceive env ident [CONFIG_REG_READ_CMD, 0, 0] d with
  | (none, d) => (false, d)
  | (some _, d) => (true, d)

/-- `bPerform_SFDPMode`: the command, an address, a dummy byte, and four bytes received. -/
def bPerformSFDPMode (env : Env) (ident : Ident) (d : Driver) : Bool × Driver :=
  match identTransceive env ident
    (addressedCMD SFDP_MODE_CMD SFDP_MODE_ADDRESS ++ List.replicate 5 0) d with
  | (none, d) => (false, d)
  | (some uiRxData, d) =>
    (uiRxData.getD 5 0 = SFDP_RECV_BYTE0 && uiRxData.getD 6 0 = SFDP_RECV_BYTE1 &&
      uiRxData.getD 7 0 = SFDP_RECV_BYTE2 && uiRxData.getD 8 0 = SFDP_RECV_BYTE3, d)

/-- `bExtFlash_WriteDisable`. -/
def bExtFlashWriteDisable (env : Env) (d : Driver) : Bool × Driver :=
  let (bRes, d) := bSPIWrite env [WRITE_DISABLE_CMD] d
  if !bRes then (false, d)
  else
    let (bRes, d) := bReadStatusRegister env d
    if !bRes then (false, d)
    else (!bIsWriteEnabled d.Flash_StatusReg, d)

/-- A step, and another one if it succeeds. -/
def andThen (r : Bool × Driver) (f : Driver → Bool × Driver) : Bool × Driver :=
  if !r.1 then (false, r.2) else f r.2

/-- `bExtFlash_Validate_WREnableDisable`. -/
def bExtFlashValidateWREnableDisable (env : Env) (d : Driver) : Bool × Driver :=
  andThen (bExtFlashWriteEnable env d) (bExtFlashWriteDisable env)

/-- `bExec_Flash_InitialSetup`. -/
def bExecFlashInitialSetup (env : Env) (ident : Ident) (d : Driver) : Bool × Driver :=
  andThen (andThen (andThen (andThen (bGetJEDECID env ident d) (bReadStatusRegister env))
    (bReadConfigRegisters env ident)) (bExtFlashValidateWREnableDisable env))
      (bPerformSFDPMode env ident)

/-- `bInit_ExtFlashHardware`; `bLPSPI` is the result of `bInit_LPSPI_ForExtFlash`. -/
def bInitExtFlashHardware (env : Env) (ident : Ident) (bLPSPI : Bool) (d : Driver) :
    Bool × Driver :=
  if d.bIsExtFlashSetupSuccess then (true, d)
  else if !bLPSPI then (false, { d with bIsExtFlashSetupSuccess := false })
  else
    let (bSetup, d) := bExecFlashInitialSetup env ident d
    (bSetup, { d with bIsExtFlashSetupSuccess := bSetup })

/-! ## §2. The runs. -/

/-- The expected chip. -/
def Ident.Expected (ident : Ident) : Prop :=
  (ident.jedec 0 = JEDEC_ID_0 ∧ ident.jedec 1 = JEDEC_ID_1 ∧ ident.jedec 2 = JEDEC_ID_2) ∧
    ident.sfdp 0 = SFDP_RECV_BYTE0 ∧ ident.sfdp 1 = SFDP_RECV_BYTE1 ∧
      ident.sfdp 2 = SFDP_RECV_BYTE2 ∧
    ident.sfdp 3 = SFDP_RECV_BYTE3

/-- The calls of the flash functions. -/
inductive Call where
  | initHardware (bLPSPI : Bool)
  | read (tOffset : Int) (bIsDataNull : Bool) (uiLength : Nat)
  | write (tOffset : Int) (pData : Option (List UInt8)) (uiLength : Nat)
  | erase (tOffset : Int) (uiLength : Nat)

/-- The effect of a call. -/
def Call.run (env : Env) (ident : Ident) (d : Driver) : Call → Driver
  | .initHardware bLPSPI => (bInitExtFlashHardware env ident bLPSPI d).2
  | .read tOffset bIsDataNull uiLength => (iZephyrFlashRead env tOffset bIsDataNull uiLength d).2.2
  | .write tOffset pData uiLength => (iZephyrFlashWrite env tOffset pData uiLength d).2
  | .erase tOffset uiLength => (iZephyrFlashErase env tOffset uiLength d).2

/-- From power-up on, with the array of the chip. -/
def setupSystem (env : Env) (ident : Ident) (mem : Mem) : TransSys Driver Call where
  init d := d.bIsExtFlashSetupSuccess = false ∧ d.log = [] ∧ d.chip.mem = mem
  step d c d' := d' = c.run env ident d

/-! ## §3. What the setup sends. -/

/-- A command that reads, programs or erases the array. -/
def Step.access : Step → Bool
  | .transfer (cmd :: _) _ =>
    [EXT_FLASH_READ_CMD, EXT_FLASH_QUAD_READ_CMD, EXT_FLASH_WRITE_CMD,
      EXT_FLASH_4KB_SECTOR_ERASE].contains cmd
  | .transfer [] _ | .timedOut => false

variable {env : Env} {ident : Ident} {d d' : Driver} {r : Bool × Driver}
    {txs txs' : List (List UInt8)}
  {P Q : Driver → Prop}

/-- The step sends no access to the array, and leaves the array alone unless a transfer fails; if
it succeeds it has sent exactly `txs`, and `P` holds. -/
structure Sends (d : Driver) (r : Bool × Driver) (txs : List (List UInt8)) (P : Driver → Prop) :
    Prop where
  runs : Runs d r.2 (r.2.chip.mem = d.chip.mem)
  log : ∃ steps, r.2.log = steps ++ d.log ∧ (∀ st ∈ steps, st.access = false) ∧
    (r.1 = true → steps = (txs.map (Step.transfer · true)).reverse)
  post : r.1 = true → P r.2

/-- **Sequencing.** -/
theorem Sends.andThen {f : Driver → Bool × Driver} (h : Sends d r txs P)
    (hf : ∀ d', P d' → Sends d' (f d') txs' Q) : Sends d (andThen r f) (txs ++ txs') Q := by
  obtain ⟨bRes, d₁⟩ := r
  obtain ⟨steps, hlog, haccess, hsteps⟩ := h.log
  cases bRes with
  | false =>
    exact ⟨h.runs, ⟨steps, hlog, haccess, fun hn => absurd hn Bool.false_ne_true⟩,
      fun hn => absurd hn Bool.false_ne_true⟩
  | true =>
    have hnext := hf d₁ (h.post rfl)
    obtain ⟨steps', hlog', haccess', hsteps'⟩ := hnext.log
    refine ⟨?_, ⟨steps' ++ steps, ?_, ?_, fun hok => ?_⟩, hnext.post⟩
    · refine (h.runs.trans hnext.runs).mono ?_
      intro ⟨hmem, hmem'⟩
      exact hmem'.trans hmem
    · show (f d₁).2.log = steps' ++ steps ++ d.log
      rw [hlog', hlog, List.append_assoc]
    · intro st hst
      rcases List.mem_append.mp hst with hst | hst
      · exact haccess' st hst
      · exact haccess st hst
    · rw [hsteps' hok, hsteps rfl, List.map_append, List.reverse_append]

/-- A transfer, and a check of what has been received. -/
theorem sends_ident {tx : List UInt8} {check : List UInt8 → Bool}
    (htx : ∀ ok, (Step.transfer tx ok).access = false)
    (hmem : (d.done env tx).chip.mem = d.chip.mem)
    (hQ : check (ident.answer tx) = true → Q (d.done env tx)) :
    Sends d
      (match identTransceive env ident tx d with
        | (none, d) => (false, d)
        | (some uiRxData, d) => (check uiRxData, d)) [tx] Q := by
  unfold identTransceive
  by_cases hspi : env.spi d.now = true
  · rw [if_pos hspi]
    refine ⟨runs_done env tx d hmem, ⟨[.transfer tx true], rfl, ?_, fun _ => rfl⟩, hQ⟩
    intro st hst
    rw [List.mem_singleton.mp hst]
    exact htx true
  · rw [if_neg hspi]
    refine ⟨runs_failed (o := .transfer tx false) rfl rfl rfl,
      ⟨[.transfer tx false], rfl, ?_, ?_⟩, ?_⟩
    · intro st hst
      rw [List.mem_singleton.mp hst]
      exact htx false
    · exact fun hn => absurd hn Bool.false_ne_true
    · exact fun hn => absurd hn Bool.false_ne_true

theorem bGetJEDECID_sends :
    Sends d (bGetJEDECID env ident d) [[JEDEC_ID_REQ_CMD, 0xFF, 0xFF, 0xFF]]
      fun _ => ident.jedec 0 = JEDEC_ID_0 ∧ ident.jedec 1 = JEDEC_ID_1 ∧
        ident.jedec 2 = JEDEC_ID_2 := by
  refine sends_ident (by decide) ?_ ?_
  · have hbytes : [JEDEC_ID_REQ_CMD, 0xFF, 0xFF, 0xFF]
        = addressedCMD JEDEC_ID_REQ_CMD 0xFFFFFF ++ [] := by
      decide
    show (d.chip.execute _ _).mem = _
    rw [hbytes, execute_read (by decide)]
  · intro h
    simp only [Ident.answer, if_true, List.ofFn_succ, List.ofFn_zero, List.getD_cons_succ,
      List.getD_cons_zero,
      Bool.and_eq_true, decide_eq_true_eq] at h
    exact ⟨h.1.1, h.1.2, h.2⟩

theorem bReadConfigRegisters_sends (h : P d)
    (hP : P d → P (d.done env [CONFIG_REG_READ_CMD, 0, 0])) :
    Sends d (bReadConfigRegisters env ident d) [[CONFIG_REG_READ_CMD, 0, 0]] P :=
  sends_ident (by decide) rfl fun _ => hP h

theorem bPerformSFDPMode_sends (hWEL : d.chip.WEL = false) :
    Sends d (bPerformSFDPMode env ident d)
      [addressedCMD SFDP_MODE_CMD SFDP_MODE_ADDRESS ++ List.replicate 5 0]
      fun d' => d'.chip.WEL = false ∧ ident.sfdp 0 = SFDP_RECV_BYTE0 ∧
        ident.sfdp 1 = SFDP_RECV_BYTE1 ∧
        ident.sfdp 2 = SFDP_RECV_BYTE2 ∧ ident.sfdp 3 = SFDP_RECV_BYTE3 := by
  have hchip :
      (d.done env (addressedCMD SFDP_MODE_CMD SFDP_MODE_ADDRESS ++ List.replicate 5 0)).chip
        = d.chip :=
    execute_read (by decide)
  have hanswer : ident.answer (addressedCMD SFDP_MODE_CMD SFDP_MODE_ADDRESS ++ List.replicate 5 0)
      = List.replicate 5 0xFF ++ [ident.sfdp 0, ident.sfdp 1, ident.sfdp 2, ident.sfdp 3] := rfl
  refine sends_ident (by decide) ?_ ?_
  · rw [hchip]
  · intro h
    rw [hanswer] at h
    simp only [List.replicate_succ, List.replicate_zero, List.cons_append, List.nil_append,
      List.getD_cons_succ,
      List.getD_cons_zero, Bool.and_eq_true, decide_eq_true_eq] at h
    rw [hchip]
    exact ⟨hWEL, h.1.1.1, h.1.1.2, h.1.2, h.2⟩

/-! ### The status register and the latch. -/

theorem bReadStatusRegister_eq (env : Env) (d : Driver) :
    bReadStatusRegister env d =
      if env.spi d.now then
        (true, { d.done env [STATUS_REG_READ_CMD, 0] with
          Flash_StatusReg := d.chip.status (env.others d.now) })
      else (false, d.fail env [STATUS_REG_READ_CMD, 0]) := by
  unfold bReadStatusRegister bSPITransceive
  by_cases hspi : env.spi d.now = true
  · rw [if_pos hspi, if_pos hspi]
    rfl
  · rw [if_neg hspi, if_neg hspi]

/-- The status register is read, and kept. -/
theorem bReadStatusRegister_sends :
    Sends d (bReadStatusRegister env d) [[STATUS_REG_READ_CMD, 0]]
      fun d' => d'.chip.WEL = d.chip.WEL ∧ bIsWriteEnabled d'.Flash_StatusReg = d.chip.WEL := by
  have hlog : ∃ steps, (bReadStatusRegister env d).2.log = steps ++ d.log ∧
      (∀ st ∈ steps, st.access = false) ∧
      ((bReadStatusRegister env d).1 = true →
        steps = [.transfer [STATUS_REG_READ_CMD, 0] true]) := by
    rw [bReadStatusRegister_eq]
    split
    · refine ⟨[.transfer [STATUS_REG_READ_CMD, 0] true], rfl, ?_, fun _ => rfl⟩
      intro st hst
      rw [List.mem_singleton.mp hst]
      decide
    · refine ⟨[.transfer [STATUS_REG_READ_CMD, 0] false], rfl, ?_,
        fun hn => absurd hn Bool.false_ne_true⟩
      intro st hst
      rw [List.mem_singleton.mp hst]
      decide
  refine ⟨(bReadStatusRegister_runs env d).mono fun h => ?_, hlog, fun hok => ?_⟩
  · rw [h.2.2]
  · rw [bReadStatusRegister_eq] at hok ⊢
    split
    · exact ⟨rfl, bIsWriteEnabled_status _ _⟩
    · next hn =>
      rw [if_neg hn] at hok
      exact absurd hok Bool.false_ne_true

theorem Sends.mono (h : Sends d r txs P) (hPQ : ∀ d', P d' → Q d') : Sends d r txs Q :=
  ⟨h.runs, h.log, fun hok => hPQ _ (h.post hok)⟩

/-- A latch command without an answer. -/
theorem bSPIWrite_sends {cmd : UInt8} (hcmd : ∀ ok, (Step.transfer [cmd] ok).access = false)
    (hmem : (d.done env [cmd]).chip.mem = d.chip.mem) :
    Sends d (bSPIWrite env [cmd] d) [[cmd]] fun _ => True := by
  unfold bSPIWrite
  split
  · refine ⟨runs_done env [cmd] d hmem, ⟨[.transfer [cmd] true], rfl, ?_, fun _ => rfl⟩,
      fun _ => trivial⟩
    intro st hst
    rw [List.mem_singleton.mp hst]
    exact hcmd true
  · refine ⟨runs_failed (o := .transfer [cmd] false) rfl rfl rfl,
      ⟨[.transfer [cmd] false], rfl, ?_, ?_⟩, fun _ => trivial⟩
    · intro st hst
      rw [List.mem_singleton.mp hst]
      exact hcmd false
    · exact fun hn => absurd hn Bool.false_ne_true

/-- A latch command, and a check of the status register after it. -/
theorem latch_sends {cmd : UInt8} {b : Bool} {check : UInt8 → Bool}
    (hcmd : ∀ ok, (Step.transfer [cmd] ok).access = false)
    (hmem : (d.done env [cmd]).chip.mem = d.chip.mem)
    (hcheck : ∀ uiRegVal, check uiRegVal = true → bIsWriteEnabled uiRegVal = b) :
    Sends d
      (andThen (bSPIWrite env [cmd] d) fun d =>
        andThen (bReadStatusRegister env d) fun d => (check d.Flash_StatusReg, d))
      [[cmd], [STATUS_REG_READ_CMD, 0]] fun d' => d'.chip.WEL = b := by
  show Sends d _ ([[cmd]] ++ ([[STATUS_REG_READ_CMD, 0]] ++ [])) _
  refine (bSPIWrite_sends hcmd hmem).andThen fun d₁ _ => ?_
  refine bReadStatusRegister_sends.andThen fun d₂ hstatus => ?_
  refine ⟨.refl rfl, ⟨[], rfl, fun st hst => absurd hst List.not_mem_nil, fun _ => rfl⟩,
    fun hok => ?_⟩
  exact (hstatus.1.trans hstatus.2.symm).trans (hcheck _ hok)

theorem bExtFlashWriteEnable_sends :
    Sends d (bExtFlashWriteEnable env d) [[WRITE_ENABLE_CMD], [STATUS_REG_READ_CMD, 0]]
      fun d' => d'.chip.WEL = true := by
  have hcmd : ∀ ok, (Step.transfer [WRITE_ENABLE_CMD] ok).access = false := by decide
  exact latch_sends hcmd rfl fun _ => id

theorem bExtFlashWriteDisable_sends :
    Sends d (bExtFlashWriteDisable env d) [[WRITE_DISABLE_CMD], [STATUS_REG_READ_CMD, 0]]
      fun d' => d'.chip.WEL = false := by
  have hcmd : ∀ ok, (Step.transfer [WRITE_DISABLE_CMD] ok).access = false := by decide
  have hcheck : ∀ uiRegVal, (!bIsWriteEnabled uiRegVal) = true →
      bIsWriteEnabled uiRegVal = false := by
    intro uiRegVal h
    simpa using h
  exact latch_sends hcmd rfl hcheck

/-- The commands of one setup, in their order. -/
def setupCommands : List (List UInt8) :=
  [[JEDEC_ID_REQ_CMD, 0xFF, 0xFF, 0xFF], [STATUS_REG_READ_CMD, 0], [CONFIG_REG_READ_CMD, 0, 0],
    [WRITE_ENABLE_CMD], [STATUS_REG_READ_CMD, 0], [WRITE_DISABLE_CMD], [STATUS_REG_READ_CMD, 0],
    addressedCMD SFDP_MODE_CMD SFDP_MODE_ADDRESS ++ List.replicate 5 0]

/-- **One setup**: with success it has sent its commands, the chip is the expected one, and its
write enable latch is clear. -/
theorem bExecFlashInitialSetup_sends :
    Sends d (bExecFlashInitialSetup env ident d) setupCommands
      fun d' => ident.Expected ∧ d'.chip.WEL = false := by
  have hjedec : Sends d (bGetJEDECID env ident d) _ _ := bGetJEDECID_sends
  have hstatus := hjedec.andThen (f := bReadStatusRegister env) fun d₁ hid =>
    (bReadStatusRegister_sends (d := d₁)).mono fun _ _ => hid
  have hconfig := hstatus.andThen (f := bReadConfigRegisters env ident) fun d₁ hid =>
    bReadConfigRegisters_sends (P := fun _ => _) hid id
  have hlatch := hconfig.andThen (f := bExtFlashValidateWREnableDisable env) fun d₁ hid =>
    (bExtFlashWriteEnable_sends.andThen fun d₂ _ => bExtFlashWriteDisable_sends).mono
      fun _ hWEL => And.intro hid hWEL
  exact hlatch.andThen fun d₁ hid =>
    (bPerformSFDPMode_sends hid.2).mono fun _ h => ⟨⟨hid.1, h.2⟩, h.1⟩

/-! ## §4. What the flash functions do to the log. -/

/-- The result of the setup stays, and the log grows. -/
structure Grows (d d' : Driver) : Prop where
  setup : d'.bIsExtFlashSetupSuccess = d.bIsExtFlashSetupSuccess
  log : ∃ later, d'.log = later ++ d.log

theorem Grows.refl (d : Driver) : Grows d d := ⟨rfl, [], rfl⟩

theorem Grows.trans {d'' : Driver} (h : Grows d d') (h' : Grows d' d'') : Grows d d'' := by
  obtain ⟨later, hlog⟩ := h.log
  obtain ⟨later', hlog'⟩ := h'.log
  refine ⟨h'.setup.trans h.setup, later' ++ later, ?_⟩
  rw [hlog', hlog, List.append_assoc]

theorem grows_step {o : Step} (hs : d'.bIsExtFlashSetupSuccess = d.bIsExtFlashSetupSuccess)
    (hl : d'.log = o :: d.log) : Grows d d' := ⟨hs, [o], hl⟩

theorem bSPIWrite_grows (env : Env) (tx : List UInt8) (d : Driver) :
    Grows d (bSPIWrite env tx d).2 := by
  unfold bSPIWrite
  split
  · exact grows_step rfl rfl
  · exact grows_step rfl rfl

theorem bSPITransceive_grows (env : Env) (tx : List UInt8) (d : Driver) :
    Grows d (bSPITransceive env tx d).2 := by
  unfold bSPITransceive
  split
  · exact grows_step rfl rfl
  · exact grows_step rfl rfl

theorem bSPIMultiPhase_grows (env : Env) (cmd dummy : List UInt8) (n : Nat) (d : Driver) :
    Grows d (bSPIMultiPhaseTranseive env cmd dummy n d).2 := by
  unfold bSPIMultiPhaseTranseive
  split
  · exact grows_step rfl rfl
  · exact grows_step rfl rfl

theorem bReadStatusRegister_grows (env : Env) (d : Driver) :
    Grows d (bReadStatusRegister env d).2 := by
  rw [bReadStatusRegister_eq]
  split
  · exact grows_step rfl rfl
  · exact grows_step rfl rfl

theorem bExtFlashWriteEnable_grows (env : Env) (d : Driver) :
    Grows d (bExtFlashWriteEnable env d).2 := by
  have h := bSPIWrite_grows env [WRITE_ENABLE_CMD] d
  unfold bExtFlashWriteEnable
  generalize bSPIWrite env [WRITE_ENABLE_CMD] d = r at h ⊢
  obtain ⟨bRes, d₁⟩ := r
  have h' := h.trans (bReadStatusRegister_grows env d₁)
  dsimp only
  split
  · exact h
  · split
    · exact h'
    · exact h'

theorem bGetExtFlashBusy_grows (env : Env) (d : Driver) : Grows d (bGetExtFlashBusy env d).2 := by
  have h := bReadStatusRegister_grows env d
  unfold bGetExtFlashBusy
  dsimp only
  split
  · exact h
  · exact h

theorem bIsExtFlashWELCleared_grows (env : Env) (d : Driver) :
    Grows d (bIsExtFlashWELCleared env d).2 := by
  have h := bReadStatusRegister_grows env d
  unfold bIsExtFlashWELCleared
  dsimp only
  split
  · exact h
  · exact h

theorem pollLoop_grows (env : Env) (uiTimeout_ms : Nat) (uiStartTime : UInt32) (fuel : Nat)
    (d : Driver) :
    Grows d (pollLoop env uiTimeout_ms uiStartTime fuel d).2 := by
  induction fuel generalizing d with
  | zero => exact .refl d
  | succ fuel ih =>
    have h := bGetExtFlashBusy_grows env d
    unfold pollLoop
    generalize bGetExtFlashBusy env d = r at h ⊢
    obtain ⟨busy, d₁⟩ := r
    cases busy with
    | none => exact h
    | some bIsBusy =>
      cases bIsBusy with
      | true =>
        dsimp only
        split
        · exact h.trans (grows_step rfl rfl)
        · exact h.trans (ih d₁)
      | false =>
        have h' := h.trans (bIsExtFlashWELCleared_grows env d₁)
        dsimp only
        split
        · exact h'
        · exact h'

theorem iPollExtBusyStatusSync_grows (env : Env) (uiTimeout_ms : Nat) (d : Driver) :
    Grows d (iPollExtBusyStatusSync env uiTimeout_ms d).2 := pollLoop_grows ..

theorem writeLoop_grows (env : Env) (fuel uiMemAddr : Nat) (puiData : List UInt8) (d : Driver) :
    Grows d (writeLoop env fuel uiMemAddr puiData d).2 := by
  induction fuel generalizing uiMemAddr puiData d with
  | zero => exact .refl d
  | succ fuel ih =>
    unfold writeLoop
    dsimp only
    generalize (if EXT_FLASH_PAGE_SIZE_BYTEs - uiMemAddr % 256 > puiData.length then puiData.length
      else EXT_FLASH_PAGE_SIZE_BYTEs - uiMemAddr % 256) = uiCurrentWriteLen
    split
    · have hwel := bExtFlashWriteEnable_grows env d
      split
      · exact hwel
      · have hwrite := hwel.trans (bSPIWrite_grows env
          (addressedCMD EXT_FLASH_WRITE_CMD uiMemAddr ++ puiData.take uiCurrentWriteLen) _)
        split
        · exact hwrite
        · have hpoll := hwrite.trans (iPollExtBusyStatusSync_grows env 50 _)
          split
          · exact hpoll
          · exact hpoll.trans (ih _ _ _)
    · exact .refl d

theorem iEraseFlash4KB_grows (env : Env) (uiAddr : Nat) (d : Driver) :
    Grows d (iEraseFlash4KB env uiAddr d).2 := by
  unfold iEraseFlash4KB
  split
  · exact .refl d
  split
  · exact .refl d
  have hwel := bExtFlashWriteEnable_grows env d
  dsimp only
  split
  · exact hwel
  have herase := hwel.trans (bSPIWrite_grows env (addressedCMD EXT_FLASH_4KB_SECTOR_ERASE uiAddr) _)
  split
  · exact herase
  · exact herase.trans (iPollExtBusyStatusSync_grows env 2000 _)

theorem eraseLoop_grows (env : Env) (fuel uiCurrentAddress uiRemainingLength : Nat) (d : Driver) :
    Grows d (eraseLoop env fuel uiCurrentAddress uiRemainingLength d).2 := by
  induction fuel generalizing uiCurrentAddress uiRemainingLength d with
  | zero => exact .refl d
  | succ fuel ih =>
    unfold eraseLoop
    dsimp only
    split
    · have herase := iEraseFlash4KB_grows env uiCurrentAddress d
      split
      · exact herase
      · exact herase.trans (ih _ _ _)
    · exact .refl d

theorem quadReadLoop_grows (env : Env) (uiAddr uiDataLen fuel : Nat) (puiRecvData : List UInt8)
    (d : Driver) :
    Grows d (quadReadLoop env uiAddr uiDataLen fuel puiRecvData d).2.2 := by
  induction fuel generalizing puiRecvData d with
  | zero => exact .refl d
  | succ fuel ih =>
    unfold quadReadLoop
    dsimp only
    split
    · have h := bSPIMultiPhase_grows env
        (addressedCMD EXT_FLASH_QUAD_READ_CMD ((uiAddr + puiRecvData.length) % 4294967296)) [0]
        (min (uiDataLen - puiRecvData.length) QUAD_READ_MAX_TRANSACTION_LENGTH) d
      generalize bSPIMultiPhaseTranseive env _ _ _ d = r at h ⊢
      obtain ⟨rx, d₁⟩ := r
      cases rx with
      | none => exact h
      | some uiRxData => exact h.trans (ih _ d₁)
    · exact .refl d

theorem iZephyrFlashRead_grows (env : Env) (tOffset : Int) (bIsDataNull : Bool) (uiLength : Nat)
    (d : Driver) :
    Grows d (iZephyrFlashRead env tOffset bIsDataNull uiLength d).2.2 := by
  unfold iZephyrFlashRead iReadDataFromFlashQuad
  dsimp only
  split
  · exact .refl d
  split
  · exact .refl d
  split
  · exact .refl d
  split
  · exact .refl d
  · exact quadReadLoop_grows ..

theorem iWriteDataToFlash_grows (env : Env) (uiAddr : Nat) (puiData : Option (List UInt8))
    (uiDataLen : Nat)
    (d : Driver) : Grows d (iWriteDataToFlash env uiAddr puiData uiDataLen d).2 := by
  unfold iWriteDataToFlash
  cases puiData with
  | none => exact .refl d
  | some puiData =>
    dsimp only
    split
    · exact .refl d
    split
    · exact .refl d
    · exact writeLoop_grows ..

theorem iZephyrFlashWrite_grows (env : Env) (tOffset : Int) (pData : Option (List UInt8))
    (uiLength : Nat)
    (d : Driver) : Grows d (iZephyrFlashWrite env tOffset pData uiLength d).2 := by
  unfold iZephyrFlashWrite
  dsimp only
  split
  · exact .refl d
  split
  · exact .refl d
  split
  · exact .refl d
  split
  · exact .refl d
  split
  · exact .refl d
  · exact iWriteDataToFlash_grows ..

theorem iZephyrFlashErase_grows (env : Env) (tOffset : Int) (uiLength : Nat) (d : Driver) :
    Grows d (iZephyrFlashErase env tOffset uiLength d).2 := by
  unfold iZephyrFlashErase
  dsimp only
  split
  · exact .refl d
  split
  · exact .refl d
  split
  · exact .refl d
  split
  · exact .refl d
  · exact eraseLoop_grows ..

/-- A call after the setup. -/
theorem Call.grows (env : Env) (ident : Ident) (c : Call)
    (hsetup : d.bIsExtFlashSetupSuccess = true) :
    Grows d (c.run env ident d) := by
  cases c with
  | initHardware bLPSPI =>
    show Grows d (bInitExtFlashHardware env ident bLPSPI d).2
    unfold bInitExtFlashHardware
    rw [if_pos hsetup]
    exact .refl d
  | read tOffset bIsDataNull uiLength => exact iZephyrFlashRead_grows ..
  | write tOffset pData uiLength => exact iZephyrFlashWrite_grows ..
  | erase tOffset uiLength => exact iZephyrFlashErase_grows ..

/-! ### Before the setup. -/

theorem iZephyrFlashRead_refused (env : Env) (tOffset : Int) (bIsDataNull : Bool) (uiLength : Nat)
    (hsetup : d.bIsExtFlashSetupSuccess = false) :
    (iZephyrFlashRead env tOffset bIsDataNull uiLength d).2.2 = d := by
  unfold iZephyrFlashRead iReadDataFromFlashQuad
  dsimp only
  split
  · rfl
  split
  · rfl
  split
  · rfl
  rw [if_pos (by rw [hsetup]; rfl)]

theorem iZephyrFlashWrite_refused (env : Env) (tOffset : Int) (pData : Option (List UInt8))
    (uiLength : Nat)
    (hsetup : d.bIsExtFlashSetupSuccess = false) :
    (iZephyrFlashWrite env tOffset pData uiLength d).2 = d := by
  unfold iZephyrFlashWrite iWriteDataToFlash
  dsimp only
  split
  · rfl
  split
  · rfl
  split
  · rfl
  split
  · rfl
  split
  · rfl
  cases pData with
  | none => rfl
  | some puiData =>
    dsimp only
    split
    · rfl
    · next hset => exact absurd (by rw [hsetup]; rfl) hset

theorem iZephyrFlashErase_refused (env : Env) (tOffset : Int) (uiLength : Nat)
    (hsetup : d.bIsExtFlashSetupSuccess = false) :
    (iZephyrFlashErase env tOffset uiLength d).2 = d := by
  have hsector : ∀ uiAddr, ∃ iResult, iResult < 0 ∧ iEraseFlash4KB env uiAddr d = (iResult, d) := by
    intro uiAddr
    unfold iEraseFlash4KB
    split
    · exact ⟨-EINVAL, by decide, rfl⟩
    · rw [if_pos (by rw [hsetup]; rfl)]
      exact ⟨-ENODEV, by decide, rfl⟩
  have hloop : ∀ fuel uiCurrentAddress uiRemainingLength,
      (eraseLoop env fuel uiCurrentAddress uiRemainingLength d).2 = d := by
    intro fuel uiCurrentAddress uiRemainingLength
    cases fuel with
    | zero => rfl
    | succ fuel =>
      obtain ⟨iResult, hneg, hr⟩ := hsector uiCurrentAddress
      unfold eraseLoop
      split
      · rw [hr]
        dsimp only
        rw [if_pos hneg]
      · rfl
  unfold iZephyrFlashErase
  dsimp only
  split
  · rfl
  split
  · rfl
  split
  · rfl
  split
  · rfl
  · exact hloop ..

/-! ## §5. The runs. -/

variable {mem : Mem}

/-- The steps of one setup that succeeds, newest first. -/
def setupSteps : List Step := (setupCommands.map (Step.transfer · true)).reverse

/-- What holds between two calls. -/
structure Prepared (ident : Ident) (mem : Mem) (d : Driver) : Prop where
  after : d.bIsExtFlashSetupSuccess = true →
    ident.Expected ∧
      ∃ later earlier, d.log = later ++ setupSteps ++ earlier ∧ ∀ st ∈ earlier, st.access = false
  before : d.bIsExtFlashSetupSuccess = false →
    (∀ st ∈ d.log, st.access = false) ∧ (d.faults = 0 → d.chip.mem = mem)

theorem Prepared.initHardware (h : Prepared ident mem d) (bLPSPI : Bool) :
    Prepared ident mem (bInitExtFlashHardware env ident bLPSPI d).2 := by
  unfold bInitExtFlashHardware
  split
  · exact h
  · next hn =>
    have hsetup : d.bIsExtFlashSetupSuccess = false := by simpa using hn
    obtain ⟨hquiet, hmem⟩ := h.before hsetup
    split
    · exact ⟨fun hn => absurd hn Bool.false_ne_true, fun _ => ⟨hquiet, hmem⟩⟩
    · have hsends : Sends d (bExecFlashInitialSetup env ident d) _ _ := bExecFlashInitialSetup_sends
      dsimp only
      generalize bExecFlashInitialSetup env ident d = r at hsends ⊢
      obtain ⟨bSetup, d₁⟩ := r
      obtain ⟨steps, hlog, haccess, hsteps⟩ := hsends.log
      refine ⟨fun hok => ⟨(hsends.post hok).1, [], d.log, ?_, hquiet⟩, fun _ => ⟨?_, ?_⟩⟩
      · show d₁.log = setupSteps ++ d.log
        rw [← show steps = setupSteps from hsteps hok]
        exact hlog
      · intro st hst
        rcases List.mem_append.mp (hlog ▸ hst : st ∈ steps ++ d.log) with hst | hst
        · exact haccess st hst
        · exact hquiet st hst
      · intro hfaults
        have hzero : d₁.faults = 0 := hfaults
        have hle : d.faults ≤ d₁.faults := hsends.runs.faults
        have hnone : d.faults = 0 := by omega
        exact (hsends.runs.ok (hzero.trans hnone.symm)).trans (hmem hnone)

theorem Prepared.step (h : Prepared ident mem d) (c : Call) :
    Prepared ident mem (c.run env ident d) := by
  cases hsetup : d.bIsExtFlashSetupSuccess with
  | true =>
    obtain ⟨hflag, later', hlog'⟩ := Call.grows env ident c hsetup
    obtain ⟨hid, later, earlier, hlog, hquiet⟩ := h.after hsetup
    refine ⟨fun _ => ⟨hid, later' ++ later, earlier, ?_, hquiet⟩, fun hn => ?_⟩
    · rw [hlog', hlog]
      simp only [List.append_assoc]
    · exact absurd ((hflag.trans hsetup).symm.trans hn) (by decide)
  | false =>
    cases c with
    | initHardware bLPSPI => exact h.initHardware bLPSPI
    | read tOffset bIsDataNull uiLength =>
      show Prepared ident mem (iZephyrFlashRead env tOffset bIsDataNull uiLength d).2.2
      rw [iZephyrFlashRead_refused env tOffset bIsDataNull uiLength hsetup]
      exact h
    | write tOffset pData uiLength =>
      show Prepared ident mem (iZephyrFlashWrite env tOffset pData uiLength d).2
      rw [iZephyrFlashWrite_refused env tOffset pData uiLength hsetup]
      exact h
    | erase tOffset uiLength =>
      show Prepared ident mem (iZephyrFlashErase env tOffset uiLength d).2
      rw [iZephyrFlashErase_refused env tOffset uiLength hsetup]
      exact h

/-- **The setup comes before the use**: an access to the array is preceded by the transfers of
one whole setup and by no other access, and the chip is the expected one; until a setup succeeds
the array is what it was, unless a transfer has failed. -/
theorem setup_before_use (h : (setupSystem env ident mem).Reachable d) :
    ((∃ st ∈ d.log, st.access = true) →
      ident.Expected ∧ ∃ later earlier, d.log = later ++ setupSteps ++ earlier ∧
        ∀ st ∈ earlier, st.access = false) ∧
      (d.bIsExtFlashSetupSuccess = false → d.faults = 0 → d.chip.mem = mem) := by
  have hp : Prepared ident mem d := by
    refine h.invariant ?_ ?_
    · intro d hinit
      obtain ⟨hsetup, hlog, hmem⟩ := hinit
      refine ⟨fun hn => absurd (hsetup.symm.trans hn) (by decide), fun _ => ⟨?_, fun _ => hmem⟩⟩
      rw [hlog]
      exact fun st hst => absurd hst List.not_mem_nil
    · rintro d c d' hd rfl
      exact hd.step c
  refine ⟨fun haccess => ?_, fun hsetup => (hp.before hsetup).2⟩
  obtain ⟨st, hst, haccess⟩ := haccess
  cases hsetup : d.bIsExtFlashSetupSuccess with
  | true => exact hp.after hsetup
  | false => exact absurd ((hp.before hsetup).1 st hst) (by rw [haccess]; decide)

/-- What the expected chip says of itself. -/
def Ident.mx25 : Ident where
  jedec i := [JEDEC_ID_0, JEDEC_ID_1, JEDEC_ID_2].getD i 0xFF
  config i := [0, 2].getD i 0xFF
  sfdp i := [SFDP_RECV_BYTE0, SFDP_RECV_BYTE1, SFDP_RECV_BYTE2, SFDP_RECV_BYTE3].getD i 0xFF

/-- A write comes too early; the setup is repeated after a failure of the SPI module, and one
page is written. -/
def writtenCalls : List Call :=
  [.write 0 (some [0x12]) 1, .initHardware false, .initHardware true, .initHardware true,
    .write 0 (some [0x12]) 1]

theorem setup_before_use_written :
    ∃ later earlier, (writtenCalls.foldl (Call.run Env.ready Ident.mx25)
        { Driver.blank with bIsExtFlashSetupSuccess := false }).log
          = later ++ setupSteps ++ earlier ∧
      ∀ st ∈ earlier, st.access = false := by
  have hinit : (setupSystem Env.ready Ident.mx25 fun _ => 0xFF).Reachable
      { Driver.blank with bIsExtFlashSetupSuccess := false } := .init ⟨rfl, rfl, rfl⟩
  have h := setup_before_use (TransSys.Reachable.foldl (fun _ _ => rfl) hinit writtenCalls)
  exact (h.1 (by decide +kernel)).2

end WallController.ExtFlash
