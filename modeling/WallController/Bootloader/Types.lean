/-
  WallController.Bootloader.Types
  ────────────────────────────────
  **THE DATA OF THE BOOTLOADER CONTROLLER.**

  `Bootloader_TypeDef.h` and `Bootloader_ProjDef.h`: the states, commands and
  error codes, the control message, and the state of the controller.  The
  macros `sTFWImg` and `sTTxLostPacketInfo` of the source name the two nested
  records; here they are the fields `img` and `tx` beside the management
  record `mgmt`.

  What the controller calls is outside of it and enters in two ways: the
  flash content, the open handle and the trace of calls are part of the state
  `Btl`; the results of the calls are given by an `Env`, one for every event,
  and are arbitrary.
-/
import WallController.Crc16
import WallController.Lib.Memory

namespace WallController.Bootloader

open WallController.Lib

/-! ## §1. Constants (`Bootloader_ProjDef.h`, `NXP_CAN_ProjDef.h`). -/

def DATA_PAYLOAD_PER_ONE_IMAGE_FRAME : Nat := 48
def FW_IMG_WRITE_BYTE_LENGTH : Nat := 16
def FW_IMG_PACKET_DATA_LENGTH : Nat := 50
def MAX_NUMBER_OF_ALLOWABLE_LOST_PACKETs : Nat := 100
def TIMEOUT_FW_UPREQ_TO_FW_UPDATE_ms : Nat := 5000
def TIMEOUT_FW_UPDATE_NextPacket_ms : Nat := 1000
def TIMEOUT_REBOOT_CONFIRMATION_ms : Nat := 100
def TIMEOUT_LOST_PACKET_RECOVERY_PROCESS_ms : Nat := 2000
def TIMEOUT_LOST_PACKET_TX_ms : Nat := 500
def BOOTLOADER_MAX_REQUEST_UPGRADE_TURNs : Nat := 3
def FW_IMAGE_SECONDARY_SLOT_WRITE_OFFSET : Nat := 0x2000
def BOOTLOADER_TX_Retry_MAX_COUNT : Nat := 3
def CAN_MSG_MAX_SIZE : Nat := 64
def UINT16_MAX : Nat := 65535

/-! ## §2. Enumerations (`Bootloader_TypeDef.h`). -/

/-- `eT_Bootloader_State`. -/
inductive BootloaderState where
  | inactive
  | idle
  | fwImgWriteInProg
  | fwImgWriteCompleted
  | reboot
  | error
  | waitForAuthResponse
  deriving DecidableEq, Repr

/-- `eT_Bootloader_Command`.  The command is a cast of the first byte of a
frame, so a value outside of the enumeration is kept as `other`. -/
inductive BootloaderCommand where
  | invalid
  | none
  | fwUpReq
  | fwUpMsg
  | fwUpEnd
  | fwUpPause
  | fwUpStop
  | getLostPacketInfo
  | retLostPacketInfo
  | retSystemPrepareForFWImgSwap
  | retSystemOkForFWImgSwap
  | authStart
  | updateAuthResponse
  | errorStateEntry
  | recoverFromError
  | reInitStateMachine
  | other (b : UInt8)
  deriving DecidableEq, Repr

namespace BootloaderCommand

/-- The enumerator of a command byte. -/
def ofByte (b : UInt8) : BootloaderCommand :=
  match b.toNat with
  | 0 => invalid
  | 20 => none
  | 21 => fwUpReq
  | 22 => fwUpMsg
  | 23 => fwUpEnd
  | 24 => fwUpPause
  | 25 => fwUpStop
  | 26 => getLostPacketInfo
  | 27 => retLostPacketInfo
  | 28 => retSystemPrepareForFWImgSwap
  | 29 => retSystemOkForFWImgSwap
  | 30 => authStart
  | 31 => updateAuthResponse
  | 32 => errorStateEntry
  | 33 => recoverFromError
  | 34 => reInitStateMachine
  | _ => other b

/-- The byte of a command. -/
def toByte : BootloaderCommand → UInt8
  | invalid => 0
  | none => 20
  | fwUpReq => 21
  | fwUpMsg => 22
  | fwUpEnd => 23
  | fwUpPause => 24
  | fwUpStop => 25
  | getLostPacketInfo => 26
  | retLostPacketInfo => 27
  | retSystemPrepareForFWImgSwap => 28
  | retSystemOkForFWImgSwap => 29
  | authStart => 30
  | updateAuthResponse => 31
  | errorStateEntry => 32
  | recoverFromError => 33
  | reInitStateMachine => 34
  | other b => b

@[simp] theorem toByte_ofByte (b : UInt8) : (ofByte b).toByte = b := by
  unfold ofByte
  split
  all_goals first
    | next h => exact UInt8.toNat_inj.mp h.symm
    | rfl

end BootloaderCommand

/-- `eT_Bootloader_ErrorCode`. -/
inductive BootloaderError where
  | none
  | nullPointer
  | notInitialized
  | updateInProgress
  | invalidCommand
  | invalidPayloadLength
  | invalidImageSize
  | imageTooLarge
  | imageIncomplete
  | crcMismatch
  | invalidPacketId
  | flashAreaOpenFail
  | flashAreaEraseFail
  | flashAreaWriteFail
  | flashAreaReadFail
  | flashBoundsExceeded
  | upgradeRequestFail
  | missingPacketsPending
  | undefinedBehavior
  deriving DecidableEq, Repr

/-- `eT_Bootloader_TxState`. -/
inductive BootloaderTxState where
  | idle
  | inProgress
  | retryInProgress
  deriving DecidableEq, Repr

/-! ## §3. Records. -/

/-- `sT_Bootloader_CtrlMsg_t`; `uiaData` holds the `uiLen` payload bytes. -/
structure CtrlMsg where
  eCMD : BootloaderCommand
  bIsMsgOk : Bool
  bIsACKReq : Bool
  eErrorCode : BootloaderError
  uiaData : List UInt8

/-- `uiLen`. -/
def CtrlMsg.uiLen (m : CtrlMsg) : Nat := m.uiaData.length

/-- `sT_LostPacketCtrl_t`. -/
structure LostPacketCtrl where
  bIsHandled : Bool
  uiPacketId : Nat
  deriving DecidableEq, Repr

/-- `sT_FWImg_LostPacketTx_t`.  `stTCANTxMsg` is the length of the frame to
repeat; its data pointer is `uiaTxData`, and `none` is the zeroed record with
the null pointer. -/
structure LostPacketTx where
  eTxState : BootloaderTxState
  uiFrameSeq : Nat
  uiRetryCount : Nat
  uiaTxData : List UInt8
  stTCANTxMsg : Option Nat
  deriving DecidableEq

/-- `sT_FWImg_Ctrl_t` without the Tx part.  `staLostPacketIDs` is the used
prefix of the array, so `uiLostPacketCount` is its length. -/
structure FWImgCtrl where
  bIsFlashWritInProgress : Bool
  bLostPacketStateTriggered : Bool
  bLostPacketDetected : Bool
  uiReceivedByteCount : Nat
  uiRunningCRC : UInt16
  uiNextId : Nat
  uiLastId : Nat
  uiFirstLostPacketId : Nat
  staLostPacketIDs : List LostPacketCtrl
  uiRecoveredPacketCount : Nat
  deriving DecidableEq

/-- `uiLostPacketCount`. -/
def FWImgCtrl.uiLostPacketCount (img : FWImgCtrl) : Nat := img.staLostPacketIDs.length

/-- `sT_Bootloader_Mgmt_t` without the nested records. -/
structure Mgmt where
  eBtlState : BootloaderState
  bIsInitialized : Bool
  bIsFirstEntry : Bool
  uiFlashAreaSize : Nat
  uiFWImgSize : Nat
  uiLibRev : Nat
  uiFWRev : Nat
  uiCRC : UInt16
  uiHWRev : Nat
  deriving DecidableEq

/-- The session deadline and the two delayable work items; a work item holds
the uptime it is scheduled for. -/
structure Timers where
  iBootloaderStateDeadline_ms : Int
  bBootloaderStateTimeoutArmed : Bool
  stBtlStateTimeOutWork : Option Int
  stBtlTxTimeOutWork : Option Int
  deriving DecidableEq

/-- `struct flash_area`, as far as the controller reads it. -/
structure FlashArea where
  fa_size : Nat
  deriving DecidableEq

/-! ## §4. The trace. -/

/-- The calls the controller makes, and two marks of its progress: a session
starts when its erase has succeeded, with the payload of its update request; a
packet is accepted when it has been written completely. -/
inductive Obs where
  | flashOpen (ret : Int)
  | flashClose
  | flashErase (ret : Int)
  /-- `flash_area_write` while packet `id` is processed. -/
  | flashWrite (id off : Nat) (data : List UInt8) (ret : Int)
  | flashRead (off len : Nat) (ret : Int)
  | sessionStarted (uiaData : List UInt8)
  | packetAccepted (id : Nat) (data : List UInt8)
  /-- `boot_request_upgrade`, with the state it is called in. -/
  | bootRequestUpgrade (mgmt : Mgmt) (flash : Mem) (ret : Int)
  /-- `vCAN_SendBtl_ACK_NACK`. -/
  | response (eCMD : BootloaderCommand) (bIsMsgOk : Bool) (eErrorCode : BootloaderError)
  /-- A lost-packet info frame handed to the CAN driver, which queues it or not. -/
  | lostPacketInfo (data : List UInt8) (queued : Bool)

/-- Why the machine stopped. -/
inductive Halt where
  /-- `sys_reboot`. -/
  | sysReboot
  /-- `flash_area_write` or `flash_area_read` on the null handle. -/
  | nullFlashArea
  deriving DecidableEq, Repr

/-! ## §5. The state and the environment. -/

/-- The controller with what it acts on: `slot` is the partition that
`flash_area_open` finds, `flashArea` the handle (`none` is `NULL`), `flash`
the content of the partition, `log` the trace with the newest call first. -/
structure Btl where
  mgmt : Mgmt
  img : FWImgCtrl
  tx : LostPacketTx
  timers : Timers
  slot : FlashArea
  flashArea : Option FlashArea
  flash : Mem
  log : List Obs
  halted : Option Halt

/-- The results of the calls made while one event is handled.  A call that
reports a failure leaves the flash as `wreck`. -/
structure Env where
  uptime : Int
  open_ : Int
  erase : Int
  /-- By block of the packet. -/
  write : Nat → Int
  /-- By pass of the read loop. -/
  read : Nat → Int
  /-- By attempt. -/
  upgrade : Nat → Int
  /-- Whether `vSend_CANMessage` queues the frame. -/
  txQueued : Bool
  wreck : Mem

/-- A received CAN frame: the DLC field and the data array. -/
structure CanFrame where
  dlc : Nat
  data : List UInt8
  length_data : data.length = CAN_MSG_MAX_SIZE

/-- What the controller reacts to. -/
inductive Event where
  /-- A frame with the bootloader identifier. -/
  | frame (f : CanFrame)
  /-- `vBtlState_TimeOutHandler` runs. -/
  | stateTimeOut
  /-- `vBtlTxTimeOutHandler` runs. -/
  | txTimeOut

end WallController.Bootloader
