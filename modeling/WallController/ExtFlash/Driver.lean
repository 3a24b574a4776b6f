/-
  WallController.ExtFlash.Driver
  ────────────────────────────────
  **THE DRIVER OF THE EXTERNAL NOR FLASH.**

  The chip has 8 MiB: a page program clears bits inside one page of 256 bytes,
  a sector erase sets 4096 aligned bytes to `0xFF`, and both need the write
  enable latch.  The driver sends it commands with 24-bit addresses and polls
  its status register; the Zephyr flash functions check the range, split it,
  and take the mutex of the device, which `K_FOREVER` always gives.

  The library that moves the bytes over SPI is not part of the sources.  The
  environment says which transfers succeed, for how many status reads the chip
  stays busy, and what a failed transfer leaves in the chip.  Here a transfer is
  one step; `ExtFlash.TransferResults` relates it to the calls of
  `ExtFlash.Transfers`.
-/
import WallController.Lib.NorFlash
import Mathlib.Algebra.Order.Sub.Basic

namespace WallController.ExtFlash

open WallController.Lib

/-! ## §1. Constants. -/

def EINVAL : Int := 22
def EIO : Int := 5
def ENODEV : Int := 19
def ETIMEDOUT : Int := 116

def DEFAULT_READ_BUFF_LENGTH : Nat := 256
def QUAD_READ_MAX_TRANSACTION_LENGTH : Nat := 4096

def STATUS_REG_READ_CMD : UInt8 := 0x05
def WRITE_ENABLE_CMD : UInt8 := 0x06
def WRITE_DISABLE_CMD : UInt8 := 0x04
def EXT_FLASH_READ_CMD : UInt8 := 0x03
def EXT_FLASH_4KB_SECTOR_ERASE : UInt8 := 0x20
def EXT_FLASH_WRITE_CMD : UInt8 := 0x02
def EXT_FLASH_QUAD_READ_CMD : UInt8 := 0x6B

def EXT_FLASH_TOTAL_SIZE_BYTEs : Nat := 8 * 1024 * 1024
def EXT_FLASH_PAGE_SIZE_BYTEs : Nat := 256
def EXT_FLASH_SECTOR_SIZE_BYTES : Nat := 4096

/-- `size-in-bytes`, `erase-block-size` and `write-block-size` of the node. -/
def uiDeviceSize : Nat := 0x800000
def uiEraseBlockSize : Nat := 4096
def uiWriteBlockSize : Nat := 1

/-! ## §2. The chip. -/

/-- The memory array, the write enable latch, and for how many status reads an
operation stays in progress. -/
structure Chip where
  mem : Mem
  WEL : Bool
  busy : Nat

/-- The address in a command; the chip ignores the bits above its size. -/
def Chip.address (a₂ a₁ a₀ : UInt8) : Nat :=
  (a₂.toNat * 65536 + a₁.toNat * 256 + a₀.toNat) % EXT_FLASH_TOTAL_SIZE_BYTEs

/-- What a command does to the chip; an operation that it starts stays in
progress for `uiBusy` status reads. -/
def Chip.execute (uiBusy : Nat) (c : Chip) : List UInt8 → Chip
  | [cmd] =>
      if cmd = WRITE_ENABLE_CMD then { c with WEL := true }
      else if cmd = WRITE_DISABLE_CMD then { c with WEL := false }
      else c
  | [cmd, _] => if cmd = STATUS_REG_READ_CMD then { c with busy := c.busy - 1 } else c
  | cmd :: a₂ :: a₁ :: a₀ :: data =>
      if c.WEL = false then c
      else if cmd = EXT_FLASH_WRITE_CMD then
        { mem := c.mem.program EXT_FLASH_PAGE_SIZE_BYTEs (address a₂ a₁ a₀) data
          WEL := false
          busy := uiBusy }
      else if cmd = EXT_FLASH_4KB_SECTOR_ERASE then
        { mem := c.mem.eraseSector EXT_FLASH_SECTOR_SIZE_BYTES (address a₂ a₁ a₀)
          WEL := false
          busy := uiBusy }
      else c
  | _ => c

/-- The `n` bytes that the chip sends from an address on; at the end of the
array it goes on at the start. -/
def Chip.send (c : Chip) (uiAddr n : Nat) : List UInt8 :=
  (List.range n).map fun i => c.mem ((uiAddr + i) % EXT_FLASH_TOTAL_SIZE_BYTEs)

/-- The status register: `WIP`, `WEL`, and the protection and quad bits
`uiOthers`, which the driver does not read. -/
def Chip.status (uiOthers : Nat) (c : Chip) : UInt8 :=
  UInt8.ofNat (uiOthers * 4 + c.WEL.toNat * 2 + (decide (0 < c.busy)).toNat)

/-- The bytes received during a full-duplex transfer: what comes in while the
command goes out is not defined, and not used. -/
def Chip.answer (uiOthers : Nat) (c : Chip) : List UInt8 → List UInt8
  | [cmd, _] => [0xFF, if cmd = STATUS_REG_READ_CMD then c.status uiOthers else 0xFF]
  | cmd :: a₂ :: a₁ :: a₀ :: clocks =>
      List.replicate 4 0xFF ++
        if cmd = EXT_FLASH_READ_CMD then c.send (address a₂ a₁ a₀) clocks.length
        else List.replicate clocks.length 0xFF
  | tx => List.replicate tx.length 0xFF

/-- The answer on four wires, after a command and one byte of dummy clocks. -/
def Chip.quadAnswer (c : Chip) (n : Nat) : List UInt8 → List UInt8 → List UInt8
  | [cmd, a₂, a₁, a₀], [_] =>
      if cmd = EXT_FLASH_QUAD_READ_CMD then c.send (address a₂ a₁ a₀) n
      else List.replicate n 0xFF
  | _, _ => List.replicate n 0xFF

/-! ## §3. The SPI functions. -/

/-- The world around the driver, by the number of the step. -/
structure Env where
  /-- The transfer ends with success. -/
  spi : Nat → Bool
  /-- What a failed transfer leaves in the chip. -/
  wreck : Nat → Chip
  busy : Nat → Nat
  others : Nat → Nat
  k_uptime_get_32 : Nat → UInt32

/-- A step of the driver: a transfer, or a poll that has timed out. -/
inductive Step where
  | transfer (tx : List UInt8) (ok : Bool)
  | timedOut
deriving DecidableEq, Repr

def Step.failed : Step → Bool
  | .transfer _ ok => !ok
  | .timedOut => true

structure Driver where
  bIsExtFlashSetupSuccess : Bool
  chip : Chip
  Flash_StatusReg : UInt8
  log : List Step

/-- The number of the next step. -/
def Driver.now (d : Driver) : Nat := d.log.length

/-- A transfer that has failed. -/
def Driver.fail (env : Env) (tx : List UInt8) (d : Driver) : Driver :=
  { d with chip := env.wreck d.now, log := .transfer tx false :: d.log }

/-- A transfer that the chip has executed. -/
def Driver.done (env : Env) (tx : List UInt8) (d : Driver) : Driver :=
  { d with chip := d.chip.execute (env.busy d.now) tx, log := .transfer tx true :: d.log }

/-- `bSPI_Write`. -/
def bSPIWrite (env : Env) (tx : List UInt8) (d : Driver) : Bool × Driver :=
  if env.spi d.now then (true, d.done env tx) else (false, d.fail env tx)

/-- `bSPI_Transceive`, with the bytes received. -/
def bSPITransceive (env : Env) (tx : List UInt8) (d : Driver) : Option (List UInt8) × Driver :=
  if env.spi d.now then (some (d.chip.answer (env.others d.now) tx), d.done env tx)
  else (none, d.fail env tx)

/-- `bSPI_MultiPhaseTranseive`: the command, the dummy clocks, and `n` bytes
received on four wires. -/
def bSPIMultiPhaseTranseive (env : Env) (cmd dummy : List UInt8) (n : Nat) (d : Driver) :
    Option (List UInt8) × Driver :=
  if env.spi d.now then
    (some (d.chip.quadAnswer n cmd dummy), d.done env (cmd ++ dummy))
  else (none, d.fail env (cmd ++ dummy))

/-! ## §4. The status register. -/

def bIsBusy (uiRegVal : UInt8) : Bool := uiRegVal.toNat % 2 = 1
def bIsWriteEnabled (uiRegVal : UInt8) : Bool := uiRegVal.toNat / 2 % 2 = 1

/-- `bRead_Status_Register`. -/
def bReadStatusRegister (env : Env) (d : Driver) : Bool × Driver :=
  match bSPITransceive env [STATUS_REG_READ_CMD, 0] d with
  | (none, d) => (false, d)
  | (some uiRxData, d) => (true, { d with Flash_StatusReg := uiRxData.getD 1 0 })

/-- `bExtFlash_WriteEnable`. -/
def bExtFlashWriteEnable (env : Env) (d : Driver) : Bool × Driver :=
  let (bRes, d) := bSPIWrite env [WRITE_ENABLE_CMD] d
  if !bRes then (false, d)
  else
    let (bRes, d) := bReadStatusRegister env d
    if !bRes then (false, d)
    else (bIsWriteEnabled d.Flash_StatusReg, d)

/-- `bGet_ExtFlash_Busy`: the flag, or no success. -/
def bGetExtFlashBusy (env : Env) (d : Driver) : Option Bool × Driver :=
  let (bRes, d) := bReadStatusRegister env d
  if !bRes then (none, d) else (some (bIsBusy d.Flash_StatusReg), d)

/-- `bIsExtFlash_WEL_Cleared`. -/
def bIsExtFlashWELCleared (env : Env) (d : Driver) : Bool × Driver :=
  let (bRes, d) := bReadStatusRegister env d
  if !bRes then (false, d) else (!bIsWriteEnabled d.Flash_StatusReg, d)

/-- The loop of `iPoll_ExtBusyStatus_Sync`.  The chip is busy for a finite
number of status reads, so that `fuel` counts them. -/
def pollLoop (env : Env) (uiTimeout_ms : Nat) (uiStartTime : UInt32) :
    Nat → Driver → Int × Driver
  | 0, d => (- EIO, d)
  | fuel + 1, d =>
      match bGetExtFlashBusy env d with
      | (none, d) => (- EIO, d)
      | (some true, d) =>
          if (env.k_uptime_get_32 d.now - uiStartTime).toNat ≥ uiTimeout_ms then
            (-ETIMEDOUT, { d with log := .timedOut :: d.log })
          else pollLoop env uiTimeout_ms uiStartTime fuel d
      | (some false, d) =>
          let (bCleared, d) := bIsExtFlashWELCleared env d
          if !bCleared then (- EIO, d) else (0, d)

/-- `iPoll_ExtBusyStatus_Sync`. -/
def iPollExtBusyStatusSync (env : Env) (uiTimeout_ms : Nat) (d : Driver) : Int × Driver :=
  pollLoop env uiTimeout_ms (env.k_uptime_get_32 d.now) (d.chip.busy + 1) d

/-! ## §5. The commands. -/

/-- A command with the low 24 bits of an address. -/
def addressedCMD (cmd : UInt8) (uiMemAddr : Nat) : List UInt8 :=
  [cmd, UInt8.ofNat (uiMemAddr / 65536), UInt8.ofNat (uiMemAddr / 256), UInt8.ofNat uiMemAddr]

/-- The loop of `iWrite_DataToFlash` over the bytes that are left. -/
def writeLoop (env : Env) : Nat → Nat → List UInt8 → Driver → Int × Driver
  | 0, _, _, d => (0, d)
  | fuel + 1, uiMemAddr, puiData, d =>
      let uiWriteLen := puiData.length
      if uiWriteLen > 0 then
        let uiAvailableBytes := EXT_FLASH_PAGE_SIZE_BYTEs - uiMemAddr % 256
        let uiCurrentWriteLen :=
          if uiAvailableBytes > uiWriteLen then uiWriteLen else uiAvailableBytes
        let (bEnabled, d) := bExtFlashWriteEnable env d
        if !bEnabled then (- EIO, d)
        else
          let (bRes, d) := bSPIWrite env
            (addressedCMD EXT_FLASH_WRITE_CMD uiMemAddr ++ puiData.take uiCurrentWriteLen) d
          if !bRes then (- EIO, d)
          else
            let (iResult, d) := iPollExtBusyStatusSync env 50 d
            if iResult ≠ 0 then (iResult, d)
            else writeLoop env fuel ((uiMemAddr + uiCurrentWriteLen) % 4294967296)
              (puiData.drop uiCurrentWriteLen) d
      else (0, d)

/-- `iWrite_DataToFlash`; `none` is the null pointer. -/
def iWriteDataToFlash (env : Env) (uiAddr : Nat) (puiData : Option (List UInt8)) (uiDataLen : Nat)
    (d : Driver) : Int × Driver :=
  match puiData with
  | none => (-EINVAL, d)
  | some puiData =>
      if uiDataLen = 0 then (-EINVAL, d)
      else if !d.bIsExtFlashSetupSuccess then (-ENODEV, d)
      else writeLoop env uiDataLen uiAddr (puiData.take uiDataLen) d

/-- `iErase_Flash_4KB`. -/
def iEraseFlash4KB (env : Env) (uiAddr : Nat) (d : Driver) : Int × Driver :=
  if uiAddr % EXT_FLASH_SECTOR_SIZE_BYTES ≠ 0 then (-EINVAL, d)
  else if !d.bIsExtFlashSetupSuccess then (-ENODEV, d)
  else
    let (bEnabled, d) := bExtFlashWriteEnable env d
    if !bEnabled then (- EIO, d)
    else
      let (bRes, d) := bSPIWrite env (addressedCMD EXT_FLASH_4KB_SECTOR_ERASE uiAddr) d
      if !bRes then (- EIO, d)
      else iPollExtBusyStatusSync env 2000 d

/-- The loop of `iRead_DataFromFlash_Normal`, with the bytes received so far. -/
def normalReadLoop (env : Env) (uiDataLen : Nat) :
    Nat → Nat → List UInt8 → Driver → Int × List UInt8 × Driver
  | 0, _, puiRecvData, d => (0, puiRecvData, d)
  | fuel + 1, uiMemAddr, puiRecvData, d =>
      let uiTotLength := puiRecvData.length
      if uiTotLength < uiDataLen then
        let uiCurrentReadLen := min (uiDataLen - uiTotLength) DEFAULT_READ_BUFF_LENGTH
        match bSPITransceive env
            (addressedCMD EXT_FLASH_READ_CMD uiMemAddr ++ List.replicate uiCurrentReadLen 0) d with
        | (none, d) => (- EIO, puiRecvData, d)
        | (some uiRxData, d) =>
            normalReadLoop env uiDataLen fuel ((uiMemAddr + uiCurrentReadLen) % 4294967296)
              (puiRecvData ++ (uiRxData.drop 4).take uiCurrentReadLen) d
      else (0, puiRecvData, d)

/-- `iRead_DataFromFlash_Normal`, with the bytes stored in the buffer. -/
def iReadDataFromFlashNormal (env : Env) (uiAddr : Nat) (bIsBufferNull : Bool) (uiDataLen : Nat)
    (d : Driver) : Int × List UInt8 × Driver :=
  if !d.bIsExtFlashSetupSuccess then (-ENODEV, [], d)
  else if uiDataLen = 0 then (-EINVAL, [], d)
  else if bIsBufferNull then (-EINVAL, [], d)
  else normalReadLoop env uiDataLen uiDataLen uiAddr [] d

/-- The loop of `iRead_DataFromFlash_Quad`, with the bytes received so far. -/
def quadReadLoop (env : Env) (uiAddr uiDataLen : Nat) :
    Nat → List UInt8 → Driver → Int × List UInt8 × Driver
  | 0, puiRecvData, d => (0, puiRecvData, d)
  | fuel + 1, puiRecvData, d =>
      let uiTotalReadLength := puiRecvData.length
      if uiTotalReadLength < uiDataLen then
        let uiCurrentReadLength :=
          min (uiDataLen - uiTotalReadLength) QUAD_READ_MAX_TRANSACTION_LENGTH
        let uiCurrentAddress := (uiAddr + uiTotalReadLength) % 4294967296
        match bSPIMultiPhaseTranseive env (addressedCMD EXT_FLASH_QUAD_READ_CMD uiCurrentAddress)
            [0] uiCurrentReadLength d with
        | (none, d) => (- EIO, puiRecvData, d)
        | (some uiRxData, d) =>
            quadReadLoop env uiAddr uiDataLen fuel (puiRecvData ++ uiRxData) d
      else (0, puiRecvData, d)

/-- `iRead_DataFromFlash_Quad`, with the bytes stored in the buffer. -/
def iReadDataFromFlashQuad (env : Env) (uiAddr : Nat) (bIsBufferNull : Bool) (uiDataLen : Nat)
    (d : Driver) : Int × List UInt8 × Driver :=
  if !d.bIsExtFlashSetupSuccess then (-ENODEV, [], d)
  else if uiDataLen = 0 then (-EINVAL, [], d)
  else if bIsBufferNull then (-EINVAL, [], d)
  else quadReadLoop env uiAddr uiDataLen uiDataLen [] d

/-! ## §6. The Zephyr flash functions. -/

/-- `iValidate_FlashRange`. -/
def iValidateFlashRange (tOffset : Int) (uiLength : Nat) : Int :=
  if tOffset < 0 then -EINVAL
  else if tOffset.toNat > uiDeviceSize then -EINVAL
  else if uiLength > uiDeviceSize - tOffset.toNat then -EINVAL
  else 0

/-- `iZephyrFlash_Read`. -/
def iZephyrFlashRead (env : Env) (tOffset : Int) (bIsDataNull : Bool) (uiLength : Nat)
    (d : Driver) : Int × List UInt8 × Driver :=
  let iResult := iValidateFlashRange tOffset uiLength
  if iResult < 0 then (iResult, [], d)
  else if uiLength = 0 then (0, [], d)
  else if bIsDataNull then (-EINVAL, [], d)
  else iReadDataFromFlashQuad env tOffset.toNat bIsDataNull uiLength d

/-- `iZephyrFlash_Write`. -/
def iZephyrFlashWrite (env : Env) (tOffset : Int) (pData : Option (List UInt8)) (uiLength : Nat)
    (d : Driver) : Int × Driver :=
  let iResult := iValidateFlashRange tOffset uiLength
  if iResult < 0 then (iResult, d)
  else if uiLength = 0 then (0, d)
  else if pData.isNone then (-EINVAL, d)
  else if uiWriteBlockSize = 0 then (-EINVAL, d)
  else if tOffset.toNat % uiWriteBlockSize ≠ 0 ∨ uiLength % uiWriteBlockSize ≠ 0 then (-EINVAL, d)
  else iWriteDataToFlash env tOffset.toNat pData uiLength d

/-- The loop of `iZephyrFlash_Erase`. -/
def eraseLoop (env : Env) : Nat → Nat → Nat → Driver → Int × Driver
  | 0, _, _, d => (0, d)
  | fuel + 1, uiCurrentAddress, uiRemainingLength, d =>
      if uiRemainingLength > 0 then
        let (iResult, d) := iEraseFlash4KB env uiCurrentAddress d
        if iResult < 0 then (iResult, d)
        else eraseLoop env fuel ((uiCurrentAddress + uiEraseBlockSize) % 4294967296)
          (uiRemainingLength - uiEraseBlockSize) d
      else (0, d)

/-- `iZephyrFlash_Erase`. -/
def iZephyrFlashErase (env : Env) (tOffset : Int) (uiLength : Nat) (d : Driver) : Int × Driver :=
  let iResult := iValidateFlashRange tOffset uiLength
  if iResult < 0 then (iResult, d)
  else if uiLength = 0 then (0, d)
  else if uiEraseBlockSize = 0 then (-EINVAL, d)
  else if tOffset.toNat % uiEraseBlockSize ≠ 0 ∨ uiLength % uiEraseBlockSize ≠ 0 then (-EINVAL, d)
  else eraseLoop env (uiLength / uiEraseBlockSize) tOffset.toNat uiLength d

end WallController.ExtFlash
