/-
  WallController.Bootloader.Ctrl
  ────────────────────────────────
  **THE BOOTLOADER STATE MACHINE (`Bootloader_Ctrl.c`).**

  One definition for each function of the source, in the order of their
  dependencies.  A handler takes the controller and the message it works on
  (`Job`) and returns both.  A handler that can stop the machine, by
  `sys_reboot` or by using the null flash handle, returns in `Except Btl`,
  where the error is the machine as it stopped; the code after such a call is
  not executed.

  `goto exit` is the end of the branch it stands in.  The session and
  dispatch mutexes do not appear: a frame or a timer handler runs to its end
  before the next one starts.
-/
import WallController.Bootloader.Types

namespace WallController.Bootloader

open WallController.Lib

/-- The controller and the message being processed. -/
structure Job where
  btl : Btl
  msg : CtrlMsg

/-- `vSet_BootloaderMsgStatus`. -/
def vSetBootloaderMsgStatus (j : Job) (bIsMsgOk : Bool) (eErrorCode : BootloaderError) : Job :=
  { j with msg := { j.msg with bIsMsgOk, eErrorCode } }

/-! ## §1. The calls of the flash map. -/

/-- `flash_area_open(FLASH_AREA_FW_IMAGE_STORE_ID, &flashArea)`; the handle is
written only on success. -/
def flashAreaOpen (env : Env) (b : Btl) : Btl :=
  if env.open_ = 0 then
    { b with flashArea := some b.slot, log := .flashOpen env.open_ :: b.log }
  else
    { b with log := .flashOpen env.open_ :: b.log }

/-- `flash_area_close(flashArea); flashArea = NULL;` -/
def flashAreaClose (b : Btl) : Btl :=
  { b with flashArea := none, log := .flashClose :: b.log }

/-- The closing of the handle where it is open. -/
def flashAreaCloseIfOpen (b : Btl) : Btl :=
  if b.flashArea.isSome then flashAreaClose b else b

/-- `-EINVAL`, the result of a flash map call outside of the partition. -/
def EINVAL : Int := -22

/-- `flash_area_write` of one block while packet `id` is processed. -/
def flashAreaWrite (env : Env) (id off : Nat) (data : List UInt8) (pass : Nat) (b : Btl) :
    Except Btl (Int × Btl) :=
  match b.flashArea with
  | none => .error { b with halted := some .nullFlashArea }
  | some fa =>
      let ret := if fa.fa_size < off + data.length then EINVAL else env.write pass
      .ok (ret, { b with
        flash := if ret = 0 then b.flash.write off data else env.wreck
        log := .flashWrite id off data ret :: b.log })

/-- `flash_area_read`; the bytes are those of the flash when it reports 0. -/
def flashAreaRead (env : Env) (off len pass : Nat) (b : Btl) : Except Btl (Int × Btl) :=
  match b.flashArea with
  | none => .error { b with halted := some .nullFlashArea }
  | some fa =>
      let ret := if fa.fa_size < off + len then EINVAL else env.read pass
      .ok (ret, { b with log := .flashRead off len ret :: b.log })

/-! ## §2. The session timeout. -/

/-- `vInvalidate_BootloaderStateTimeOut_Locked`. -/
def vInvalidateBootloaderStateTimeOutLocked (b : Btl) : Btl :=
  { b with timers := { b.timers with
      bBootloaderStateTimeoutArmed := false, iBootloaderStateDeadline_ms := 0 } }

/-- `vRefresh_BootloaderStateTimeOut_Locked`. -/
def vRefreshBootloaderStateTimeOutLocked (env : Env) (uiTimeOut_ms : Nat) (b : Btl) : Btl :=
  { b with timers := { b.timers with
      iBootloaderStateDeadline_ms := env.uptime + uiTimeOut_ms
      bBootloaderStateTimeoutArmed := true
      stBtlStateTimeOutWork := some (env.uptime + uiTimeOut_ms) } }

/-- `k_work_cancel_delayable(&stBtlStateTimeOut_Work_t)`. -/
def cancelStateTimeOutWork (b : Btl) : Btl :=
  { b with timers := { b.timers with stBtlStateTimeOutWork := none } }

/-- `k_work_cancel_delayable(&stBtlTxTimeOut_Work_t)`. -/
def cancelTxTimeOutWork (b : Btl) : Btl :=
  { b with timers := { b.timers with stBtlTxTimeOutWork := none } }

/-- `vCancel_BootloaderStateTimeOut`. -/
def vCancelBootloaderStateTimeOut (b : Btl) : Btl :=
  cancelStateTimeOutWork (vInvalidateBootloaderStateTimeOutLocked b)

/-- Both cancellations, where a session has been given up. -/
def cancelWorks (b : Btl) : Btl :=
  cancelTxTimeOutWork (cancelStateTimeOutWork b)

/-! ## §3. Giving a session up. -/

/-- The cleared image record. -/
def FWImgCtrl.cleared : FWImgCtrl where
  bIsFlashWritInProgress := false
  bLostPacketStateTriggered := false
  bLostPacketDetected := false
  uiReceivedByteCount := 0
  uiRunningCRC := 0xFFFF
  uiNextId := 0
  uiLastId := 0
  uiFirstLostPacketId := 0
  staLostPacketIDs := []
  uiRecoveredPacketCount := 0

/-- The cleared Tx record. -/
def LostPacketTx.cleared : LostPacketTx where
  eTxState := .idle
  uiFrameSeq := 0
  uiRetryCount := 0
  uiaTxData := List.replicate CAN_MSG_MAX_SIZE 0
  stTCANTxMsg := none

/-- `vReinit_TxLostPacketInfo`. -/
def vReinitTxLostPacketInfo (b : Btl) : Btl :=
  { b with tx := LostPacketTx.cleared }

/-- The common body of the abort and of the re-initialization, which end in
different states. -/
def resetSession (eState : BootloaderState) (bFirstEntry : Bool) (b : Btl) : Btl :=
  let b := flashAreaCloseIfOpen (vInvalidateBootloaderStateTimeOutLocked b)
  let b := { b with
    mgmt := { b.mgmt with
      uiFWImgSize := 0, uiFWRev := 0, uiHWRev := 0, uiLibRev := 0, uiCRC := 0 }
    img := FWImgCtrl.cleared }
  let b := vReinitTxLostPacketInfo b
  { b with mgmt := { b.mgmt with eBtlState := eState, bIsFirstEntry := bFirstEntry } }

/-- `vAbort_BootloaderSession_Locked`. -/
def vAbortBootloaderSessionLocked (b : Btl) : Btl :=
  resetSession .error false b

/-- `vReinit_BootloaderStateMachine`. -/
def vReinitBootloaderStateMachine (b : Btl) : Btl :=
  cancelWorks (resetSession .idle true b)

/-- `vAbort_BootloaderSession`. -/
def vAbortBootloaderSession (b : Btl) : Btl :=
  cancelWorks (vAbortBootloaderSessionLocked b)

/-- A rejected message that gives the session up: status, abort, and the
cancellation of both work items after the exit. -/
def rejectAndAbort (j : Job) (eErrorCode : BootloaderError) : Job :=
  let j := vSetBootloaderMsgStatus j false eErrorCode
  { j with btl := vAbortBootloaderSession j.btl }

/-- `vSet_BootloaderState`. -/
def vSetBootloaderState (env : Env) (eState : BootloaderState) (b : Btl) : Btl :=
  let b := { b with mgmt := { b.mgmt with eBtlState := eState, bIsFirstEntry := true } }
  match eState with
  | .fwImgWriteInProg =>
      vRefreshBootloaderStateTimeOutLocked env TIMEOUT_FW_UPREQ_TO_FW_UPDATE_ms b
  | .error => b
  | _ => cancelStateTimeOutWork (vInvalidateBootloaderStateTimeOutLocked b)

/-- `bIsFirstEntry`: reads the flag and clears it. -/
def bIsFirstEntry (b : Btl) : Bool × Btl :=
  (b.mgmt.bIsFirstEntry, { b with mgmt := { b.mgmt with bIsFirstEntry := false } })

/-! ## §4. Lost packets. -/

/-- `uiGet_PendingLostPacketCount`. -/
def uiGetPendingLostPacketCount (img : FWImgCtrl) : Nat :=
  img.staLostPacketIDs.countP fun p => !p.bIsHandled

/-- The entries `uiNextId .. uiNextId + iDiff - 1`, not handled. -/
def missingEntries (uiNextId iDiff : Nat) : List LostPacketCtrl :=
  (List.range iDiff).map fun i => { bIsHandled := false, uiPacketId := uiNextId + i }

/-- `bCanHandleMissingPackets`; both callers pass an id above `uiNextId`. -/
def bCanHandleMissingPackets (j : Job) (uipacketId : Nat) : Bool × Job :=
  let img := j.btl.img
  let iDiff := uipacketId - img.uiNextId
  if img.uiLostPacketCount + iDiff > MAX_NUMBER_OF_ALLOWABLE_LOST_PACKETs then
    let j := vSetBootloaderMsgStatus j false .invalidPacketId
    (false, { j with btl := vAbortBootloaderSessionLocked j.btl })
  else
    let img := { img with
      staLostPacketIDs := img.staLostPacketIDs ++ missingEntries img.uiNextId iDiff
      uiFirstLostPacketId :=
        if img.bLostPacketStateTriggered then img.uiFirstLostPacketId else img.uiNextId
      bLostPacketStateTriggered := true
      uiNextId := img.uiNextId + iDiff
      bLostPacketDetected := true }
    (true, { j with btl := { j.btl with img } })

/-- `vHandle_PacketId_Mismatch`; the flag is `*bContinue`. -/
def vHandlePacketIdMismatch (j : Job) (uipacketId : Nat) : Bool × Job :=
  if uipacketId > j.btl.img.uiNextId then
    bCanHandleMissingPackets j uipacketId
  else
    match j.btl.img.staLostPacketIDs.find? fun p => p.uiPacketId == uipacketId with
    | some p =>
        if p.bIsHandled = false then (true, j)
        else (false, vSetBootloaderMsgStatus j false .invalidPacketId)
    | none => (false, vSetBootloaderMsgStatus j false .invalidPacketId)

/-- Mark the first entry of a packet id as handled. -/
def markHandled (uiPacketId : Nat) : List LostPacketCtrl → List LostPacketCtrl
  | [] => []
  | p :: ps =>
      if p.uiPacketId = uiPacketId then { p with bIsHandled := true } :: ps
      else p :: markHandled uiPacketId ps

/-- `vHandle_LostPacketRecovery`. -/
def vHandleLostPacketRecovery (uiPacketId : Nat) (img : FWImgCtrl) : FWImgCtrl :=
  if !img.bLostPacketStateTriggered then img
  else
    match img.staLostPacketIDs.find? fun p => p.uiPacketId == uiPacketId with
    | none => img
    | some p =>
        if p.bIsHandled then img
        else { img with
          staLostPacketIDs := markHandled uiPacketId img.staLostPacketIDs
          uiRecoveredPacketCount := img.uiRecoveredPacketCount + 1
          bLostPacketDetected := false }

/-! ## §5. Writing a packet. -/

/-- The write loop of `vUpdate_FWImage` over the block indexes; the flag tells
whether the loop was left by its end or a `break`, not by `goto exit`. -/
def writeBlocks (env : Env) (uipacketId : Nat) : List Nat → Job → Except Btl (Bool × Job)
  | [], j => .ok (true, j)
  | uiIndex :: rest, j =>
      let uiAvailableFlashSize :=
        j.btl.mgmt.uiFlashAreaSize - FW_IMAGE_SECONDARY_SLOT_WRITE_OFFSET
      let uiFWImgSize := j.btl.mgmt.uiFWImgSize
      let uiOffset := uipacketId * DATA_PAYLOAD_PER_ONE_IMAGE_FRAME + (uiIndex - 2)
      -- past the slot: `goto exit`; past the image: `break`
      if uiOffset > uiAvailableFlashSize then
        .ok (false, rejectAndAbort j .flashBoundsExceeded)
      else if uiOffset ≥ uiFWImgSize then
        .ok (true, j)
      else
        let uiWriteLen :=
          if uiOffset + FW_IMG_WRITE_BYTE_LENGTH ≤ uiFWImgSize then FW_IMG_WRITE_BYTE_LENGTH
          else uiFWImgSize - uiOffset
        if uiOffset + FW_IMG_WRITE_BYTE_LENGTH > uiAvailableFlashSize then
          .ok (false, rejectAndAbort j .flashBoundsExceeded)
        else
          -- the last block of the image is padded to the write size
          let bytes := (j.msg.uiaData.drop uiIndex).take uiWriteLen
          let uiaWriteBlock := bytes ++ List.replicate (FW_IMG_WRITE_BYTE_LENGTH - uiWriteLen) 0xFF
          let img := j.btl.img
          -- the running CRC is kept only as long as no packet is missing
          let img := { img with
            uiRunningCRC := if !img.bLostPacketStateTriggered
              then u16CRC16CCITTUpdate img.uiRunningCRC bytes else img.uiRunningCRC }
          match flashAreaWrite env uipacketId (FW_IMAGE_SECONDARY_SLOT_WRITE_OFFSET + uiOffset)
              uiaWriteBlock ((uiIndex - 2) / FW_IMG_WRITE_BYTE_LENGTH)
              { j.btl with img } with
          | .error b => .error b
          | .ok (ret, b) =>
              let j := { j with btl := b }
              if ret ≠ 0 then
                .ok (false, rejectAndAbort j .flashAreaWriteFail)
              else
                let img := { b.img with
                  uiReceivedByteCount := b.img.uiReceivedByteCount + uiWriteLen }
                let j := { j with btl := { b with img } }
                if img.uiReceivedByteCount ≥ uiFWImgSize then .ok (true, j)
                else writeBlocks env uipacketId rest j

/-- The block indexes `2, 18, 34` of a packet of `FW_IMG_PACKET_DATA_LENGTH`. -/
def blockIndexes : List Nat := [2, 18, 34]

/-- The end of `vUpdate_FWImage`, after the write loop. -/
def finishPacket (env : Env) (uipacketId : Nat) : Except Btl (Bool × Job) → Except Btl Job
  | .error b => .error b
  | .ok (false, j) => .ok j
  | .ok (true, j) =>
      let img := vHandleLostPacketRecovery uipacketId
        { j.btl.img with bIsFlashWritInProgress := false }
      let b := { j.btl with
        img
        log := .packetAccepted uipacketId (j.msg.uiaData.drop 2) :: j.btl.log }
      .ok { j with btl := vRefreshBootloaderStateTimeOutLocked env TIMEOUT_FW_UPDATE_NextPacket_ms b }

/-- The part of `vUpdate_FWImage` after the packet id has been admitted. -/
def writePacket (env : Env) (uipacketId : Nat) (bIsFirstPacket : Bool) (j : Job) :
    Except Btl Job :=
  let img := j.btl.img
  let img := { img with
    bIsFlashWritInProgress := true
    uiLastId := uipacketId
    uiNextId := if uipacketId ≥ img.uiNextId then (uipacketId + 1) % 65536 else img.uiNextId }
  let j := { j with btl := { j.btl with img } }
  let j := if bIsFirstPacket then { j with btl := flashAreaOpen env j.btl } else j
  if bIsFirstPacket ∧ env.open_ ≠ 0 then
    .ok (rejectAndAbort j .flashAreaOpenFail)
  else
    finishPacket env uipacketId (writeBlocks env uipacketId blockIndexes j)

/-- The packet id of an image frame, big-endian. -/
def packetId (uiaData : List UInt8) : Nat :=
  (uiaData.getD 0 0).toNat * 256 + (uiaData.getD 1 0).toNat

/-- `vUpdate_FWImage`. -/
def vUpdateFWImage (env : Env) (j : Job) : Except Btl Job :=
  if j.msg.uiLen ≠ FW_IMG_PACKET_DATA_LENGTH then
    .ok (vSetBootloaderMsgStatus j false .invalidPayloadLength)
  else
    let uipacketId := packetId j.msg.uiaData
    if j.btl.mgmt.eBtlState ≠ .fwImgWriteInProg then
      .ok (vSetBootloaderMsgStatus j false .updateInProgress)
    else if j.btl.img.bIsFlashWritInProgress then
      .ok (vSetBootloaderMsgStatus j false .updateInProgress)
    else if j.btl.mgmt.uiFlashAreaSize ≤ FW_IMAGE_SECONDARY_SLOT_WRITE_OFFSET then
      .ok (rejectAndAbort j .flashBoundsExceeded)
    else
      let bIsFirstPacket := decide (j.btl.img.uiLastId = 0 ∧ j.btl.img.uiNextId = 0)
      if j.btl.img.uiNextId ≠ uipacketId then
        let (bShouldContinue, j) := vHandlePacketIdMismatch j uipacketId
        if !bShouldContinue then
          .ok (if j.btl.mgmt.eBtlState = .error then { j with btl := cancelWorks j.btl } else j)
        else
          writePacket env uipacketId bIsFirstPacket j
      else
        writePacket env uipacketId bIsFirstPacket j

/-! ## §6. The lost-packet info frames. -/

/-- `bSchedule_LostPacketTimeouts`. -/
def bScheduleLostPacketTimeouts (env : Env) (b : Btl) : Btl :=
  if b.mgmt.eBtlState = .fwImgWriteInProg ∧ b.tx.eTxState ≠ .idle then
    let b := { b with timers := { b.timers with
      stBtlTxTimeOutWork := some (env.uptime + TIMEOUT_LOST_PACKET_TX_ms) } }
    vRefreshBootloaderStateTimeOutLocked env TIMEOUT_LOST_PACKET_RECOVERY_PROCESS_ms b
  else b

/-- `vEnter_LostPacketRecovery_Locked`. -/
def vEnterLostPacketRecoveryLocked (env : Env) (b : Btl) : Btl :=
  vRefreshBootloaderStateTimeOutLocked env TIMEOUT_LOST_PACKET_RECOVERY_PROCESS_ms
    { b with tx := LostPacketTx.cleared }

/-- `vProcess_Bootloader_TxError`. -/
def vProcessBootloaderTxError (b : Btl) : Btl :=
  if b.mgmt.eBtlState = .fwImgWriteInProg then
    vAbortBootloaderSession (cancelTxTimeOutWork b)
  else b

/-- `vProcess_Bootloader_RetryTx`. -/
def vProcessBootloaderRetryTx (env : Env) (b : Btl) : Btl :=
  if b.tx.eTxState ≠ .retryInProgress then b
  else if b.tx.uiRetryCount ≥ BOOTLOADER_TX_Retry_MAX_COUNT then
    vProcessBootloaderTxError b
  else
    let data := b.tx.uiaTxData.take (b.tx.stTCANTxMsg.getD 0)
    bScheduleLostPacketTimeouts env { b with
      log := .lostPacketInfo data env.txQueued :: b.log
      tx := { b.tx with
        uiRetryCount := (b.tx.uiRetryCount + 1) % 256, eTxState := .retryInProgress } }

/-- The packet ids of an info frame, two bytes each from `uiIndex` on, as far
as the frame has room. -/
def lostPacketIdBytes : List LostPacketCtrl → Nat → List UInt8
  | [], _ => []
  | p :: ps, uiIndex =>
      if uiIndex + 1 < CAN_MSG_MAX_SIZE then
        if p.bIsHandled then lostPacketIdBytes ps uiIndex
        else UInt8.ofNat (p.uiPacketId / 256) :: UInt8.ofNat (p.uiPacketId % 256)
          :: lostPacketIdBytes ps (uiIndex + 2)
      else []

/-- The frame that `vGet_LostPacketInfo` builds. -/
def lostPacketInfoFrame (img : FWImgCtrl) (uiFrameSeq : Nat) : List UInt8 :=
  let pending := uiGetPendingLostPacketCount img
  let ids := if pending ≠ 0 then lostPacketIdBytes img.staLostPacketIDs 4 else []
  [BootloaderCommand.retLostPacketInfo.toByte, UInt8.ofNat pending, UInt8.ofNat uiFrameSeq,
    UInt8.ofNat ids.length] ++ ids

/-- `vGet_LostPacketInfo`. -/
def vGetLostPacketInfo (env : Env) (j : Job) : Job :=
  if j.msg.eCMD ≠ .getLostPacketInfo then
    vSetBootloaderMsgStatus j false .invalidCommand
  else if j.btl.tx.eTxState ≠ .idle then
    vSetBootloaderMsgStatus j false .upgradeRequestFail
  else
    let b := j.btl
    let data := lostPacketInfoFrame b.img b.tx.uiFrameSeq
    let tx := { b.tx with
      uiaTxData := data ++ b.tx.uiaTxData.drop data.length
      stTCANTxMsg := some data.length }
    let tx := if env.txQueued
      then { tx with eTxState := .inProgress, uiFrameSeq := (tx.uiFrameSeq + 1) % 256 }
      else { tx with eTxState := .retryInProgress, uiRetryCount := (tx.uiRetryCount + 1) % 256 }
    { j with btl := bScheduleLostPacketTimeouts env { b with
        log := .lostPacketInfo data env.txQueued :: b.log, tx } }

/-- `eCAN_ACK` and `eCAN_NACK`. -/
def eCAN_ACK : UInt8 := 10
def eCAN_NACK : UInt8 := 11

/-- `vHandle_LostPacketInfo_TxResponse`. -/
def vHandleLostPacketInfoTxResponse (env : Env) (eAck uiFrameSeq : UInt8) (b : Btl) : Btl :=
  if eAck ≠ eCAN_ACK ∧ eAck ≠ eCAN_NACK then b
  else if b.tx.stTCANTxMsg.getD 0 < 3 then b
  else if b.tx.eTxState = .idle then b
  else if uiFrameSeq ≠ b.tx.uiaTxData.getD 2 0 then b
  else if eAck = eCAN_ACK then
    let b := cancelTxTimeOutWork b
    { b with tx := { b.tx with uiRetryCount := 0, eTxState := .idle } }
  else
    vProcessBootloaderRetryTx env { b with tx := { b.tx with eTxState := .retryInProgress } }

/-- `vHandle_ACK_ForLostPacketInfo`. -/
def vHandleACKForLostPacketInfo (env : Env) (j : Job) : Job :=
  if j.msg.eCMD ≠ .retLostPacketInfo then
    vSetBootloaderMsgStatus j false .invalidCommand
  else
    { msg := { j.msg with bIsACKReq := false }
      btl := vHandleLostPacketInfoTxResponse env
        (j.msg.uiaData.getD 0 0) (j.msg.uiaData.getD 1 0) j.btl }

/-- `vHandle_HostAcknowledgements`. -/
def vHandleHostAcknowledgements (env : Env) (j : Job) : Job :=
  match j.msg.eCMD with
  | .retLostPacketInfo => vHandleACKForLostPacketInfo env j
  | _ => vSetBootloaderMsgStatus j false .invalidCommand

/-! ## §7. Finishing the image. -/

/-- The read loop of the CRC check at the lost-packet state.  The bound is
not a limit of the source: every pass reads a chunk or counts a failure. -/
def readBack (env : Env) : (fuel pass uiReadOffset uiBytesToRead iretryCount : Nat) → Btl →
    Except Btl (Bool × Btl)
  | 0, _, _, _, _, b => .ok (false, b)
  | fuel + 1, pass, uiReadOffset, uiBytesToRead, iretryCount, b =>
      if uiBytesToRead = 0 then .ok (true, b)
      else
        let uiValidBytes := min DATA_PAYLOAD_PER_ONE_IMAGE_FRAME uiBytesToRead
        match flashAreaRead env uiReadOffset uiValidBytes pass b with
        | .error b => .error b
        | .ok (ret, b) =>
            if ret ≠ 0 then
              if iretryCount + 1 ≥ 3 then .ok (false, b)
              else readBack env fuel (pass + 1) uiReadOffset uiBytesToRead (iretryCount + 1) b
            else
              let img := { b.img with
                uiRunningCRC := u16CRC16CCITTUpdate b.img.uiRunningCRC
                  (b.flash.read uiReadOffset uiValidBytes) }
              readBack env fuel (pass + 1) (uiReadOffset + uiValidBytes)
                (uiBytesToRead - uiValidBytes) iretryCount { b with img }

/-- The end of `vValidate_FWImgCRC_FromFLash_AtLostPacketState`, after the read
loop. -/
def compareCRC : Except Btl (Bool × Btl) → Except Btl (BootloaderError × Btl)
  | .error b => .error b
  | .ok (false, b) => .ok (.flashAreaReadFail, b)
  | .ok (true, b) =>
      let e := if b.img.uiRunningCRC ≠ b.mgmt.uiCRC then BootloaderError.crcMismatch else .none
      .ok (e, { b with img := { b.img with bLostPacketStateTriggered := false } })

/-- Where the read loop starts. -/
def FWImgCtrl.uiReadOffset (img : FWImgCtrl) : Nat :=
  DATA_PAYLOAD_PER_ONE_IMAGE_FRAME * img.uiFirstLostPacketId
    + FW_IMAGE_SECONDARY_SLOT_WRITE_OFFSET

/-- How many bytes the read loop starts with, a 32-bit difference. -/
def Btl.uiBytesToRead (b : Btl) : Nat :=
  (b.mgmt.uiFWImgSize + 4294967296
    - DATA_PAYLOAD_PER_ONE_IMAGE_FRAME * b.img.uiFirstLostPacketId) % 4294967296

/-- `vValidate_FWImgCRC_FromFLash_AtLostPacketState`: the error code, `none`
(the enumerator) when the image is to be marked completed. -/
def vValidateFWImgCRCFromFlashAtLostPacketState (env : Env) (b : Btl) :
    Except Btl (BootloaderError × Btl) :=
  if !b.img.bLostPacketStateTriggered then .ok (.undefinedBehavior, b)
  else if b.img.uiRecoveredPacketCount < b.img.uiLostPacketCount then
    .ok (.undefinedBehavior, b)
  else
    compareCRC
      (readBack env (b.uiBytesToRead + 3) 0 b.img.uiReadOffset b.uiBytesToRead 0 b)

/-- The attempts of `vRequest_MCUbootImageUpgrade`; the flag tells whether one
of them succeeded. -/
def requestUpgradeLoop (env : Env) : (left uiRetryCount : Nat) → Btl → Bool × Btl
  | 0, _, b => (false, b)
  | left + 1, uiRetryCount, b =>
      let ret := env.upgrade uiRetryCount
      let b := { b with log := .bootRequestUpgrade b.mgmt b.flash ret :: b.log }
      if ret = 0 then (true, b) else requestUpgradeLoop env left (uiRetryCount + 1) b

/-- `vRequest_MCUbootImageUpgrade`. -/
def vRequestMCUbootImageUpgrade (env : Env) (j : Job) : Job :=
  let (bRequested, b) := requestUpgradeLoop env BOOTLOADER_MAX_REQUEST_UPGRADE_TURNs 0 j.btl
  let j := { j with btl := b }
  if !bRequested then rejectAndAbort j .upgradeRequestFail
  else
    let j := vSetBootloaderMsgStatus j true .none
    let b := vSetBootloaderState env .reboot j.btl
    { j with btl := vRefreshBootloaderStateTimeOutLocked env TIMEOUT_REBOOT_CONFIRMATION_ms b }

/-- `vExecute_Bootloader_FWImgWrite_Completed`. -/
def vExecuteBootloaderFWImgWriteCompleted (env : Env) (j : Job) : Job :=
  let (bFirst, b) := bIsFirstEntry j.btl
  let b := if bFirst then flashAreaCloseIfOpen (vCancelBootloaderStateTimeOut b) else b
  let j := { j with btl := b }
  match j.msg.eCMD with
  | .fwUpEnd => vRequestMCUbootImageUpgrade env j
  | _ => j

/-- The move to the completed state at the end of `vFinalize_FWImageWrite`. -/
def markCompleted (env : Env) (j : Job) : Job :=
  let b := { j.btl with mgmt := { j.btl.mgmt with
    eBtlState := .fwImgWriteCompleted, bIsFirstEntry := true } }
  let b := cancelStateTimeOutWork (vInvalidateBootloaderStateTimeOutLocked b)
  vExecuteBootloaderFWImgWriteCompleted env { j with btl := b }

/-- `uiExpectedPacketCount`. -/
def uiExpectedPacketCount (uiFWImgSize : Nat) : Nat :=
  (uiFWImgSize + DATA_PAYLOAD_PER_ONE_IMAGE_FRAME - 1) / DATA_PAYLOAD_PER_ONE_IMAGE_FRAME

/-- The checks of `vFinalize_FWImageWrite` once the missing ids are recorded. -/
def checkImage (env : Env) (j : Job) : Except Btl Job :=
  let b := j.btl
  if b.img.bLostPacketStateTriggered then
    if uiGetPendingLostPacketCount b.img > 0 then
      let j := vSetBootloaderMsgStatus j false .missingPacketsPending
      .ok { j with btl := vEnterLostPacketRecoveryLocked env j.btl }
    else if b.img.uiReceivedByteCount ≠ b.mgmt.uiFWImgSize then
      .ok (rejectAndAbort j .imageIncomplete)
    else
      match vValidateFWImgCRCFromFlashAtLostPacketState env b with
      | .error b => .error b
      | .ok (e, b) =>
          let j := { j with btl := b }
          if e ≠ .none then .ok (rejectAndAbort j e) else .ok (markCompleted env j)
  else
    if b.img.uiReceivedByteCount ≠ b.mgmt.uiFWImgSize then
      .ok (rejectAndAbort j .imageIncomplete)
    else if b.img.uiRunningCRC ≠ b.mgmt.uiCRC then
      .ok (rejectAndAbort j .crcMismatch)
    else .ok (markCompleted env j)

/-- `vFinalize_FWImageWrite`. -/
def vFinalizeFWImageWrite (env : Env) (j : Job) : Except Btl Job :=
  if j.btl.mgmt.eBtlState ≠ .fwImgWriteInProg then
    .ok (vSetBootloaderMsgStatus j false .updateInProgress)
  else
    let expected := uiExpectedPacketCount j.btl.mgmt.uiFWImgSize
    if expected > UINT16_MAX then
      .ok (rejectAndAbort j .imageTooLarge)
    else if j.btl.img.uiNextId < expected then
      let (bHandled, j) := bCanHandleMissingPackets j expected
      if !bHandled then .ok { j with btl := cancelWorks j.btl }
      else checkImage env j
    else checkImage env j

/-! ## §8. Starting a session. -/

/-- `vErase_FlashArea`. -/
def vEraseFlashArea (env : Env) (j : Job) : Job :=
  let j := { j with btl := flashAreaOpen env j.btl }
  if env.open_ ≠ 0 then
    vSetBootloaderMsgStatus j false .flashAreaOpenFail
  else
    let b := { j.btl with
      flash := if env.erase = 0 then fun _ => 0xFF else env.wreck
      log := .flashErase env.erase :: j.btl.log }
    let j := { j with btl := flashAreaClose b }
    if env.erase ≠ 0 then vSetBootloaderMsgStatus j false .flashAreaEraseFail
    else vSetBootloaderMsgStatus j true .none

/-- A big-endian 16-bit field of a payload. -/
def be16 (uiaData : List UInt8) (i : Nat) : Nat :=
  (uiaData.getD i 0).toNat * 256 + (uiaData.getD (i + 1) 0).toNat

/-- The image size of an update request. -/
def requestedSize (uiaData : List UInt8) : Nat :=
  (uiaData.getD 0 0).toNat * 65536 + (uiaData.getD 1 0).toNat * 256 + (uiaData.getD 2 0).toNat

/-- `vInit_BootloaderManager_ForNewFWImage`. -/
def vInitBootloaderManagerForNewFWImage (env : Env) (j : Job) : Job :=
  let uiaData := j.msg.uiaData
  let uiFWImgSize := requestedSize uiaData
  let j := { j with btl := { j.btl with mgmt := { j.btl.mgmt with uiFWImgSize } } }
  if uiFWImgSize = 0 then
    vSetBootloaderMsgStatus j false .invalidImageSize
  else if j.btl.mgmt.uiFlashAreaSize ≤ FW_IMAGE_SECONDARY_SLOT_WRITE_OFFSET then
    vSetBootloaderMsgStatus j false .flashBoundsExceeded
  else if uiFWImgSize > j.btl.mgmt.uiFlashAreaSize - FW_IMAGE_SECONDARY_SLOT_WRITE_OFFSET then
    vSetBootloaderMsgStatus j false .imageTooLarge
  else
    let j := { j with btl := { j.btl with
      mgmt := { j.btl.mgmt with
        uiHWRev := (uiaData.getD 3 0).toNat
        uiLibRev := be16 uiaData 4
        uiFWRev := be16 uiaData 6
        uiCRC := UInt16.ofNat (be16 uiaData 8) }
      img := FWImgCtrl.cleared } }
    let j := vEraseFlashArea env j
    if !j.msg.bIsMsgOk then j
    else
      let b := { j.btl with log := .sessionStarted uiaData :: j.btl.log }
      { btl := vSetBootloaderState env .fwImgWriteInProg b
        msg := { j.msg with bIsMsgOk := true } }

/-! ## §9. The handlers of the states. -/

/-- `vExecute_Bootloader_IdleState`. -/
def vExecuteBootloaderIdleState (env : Env) (j : Job) : Job :=
  if !j.btl.mgmt.bIsInitialized then vSetBootloaderMsgStatus j false .notInitialized
  else if j.btl.mgmt.eBtlState = .fwImgWriteInProg then
    vSetBootloaderMsgStatus j false .updateInProgress
  else if j.msg.uiLen ≠ 10 then vSetBootloaderMsgStatus j false .invalidPayloadLength
  else
    let j := { j with btl := (bIsFirstEntry j.btl).2 }
    match j.msg.eCMD with
    | .none | .fwUpReq => vInitBootloaderManagerForNewFWImage env j
    | _ => vSetBootloaderMsgStatus j false .invalidCommand

/-- `vStop_FWUpgradeProcess`. -/
def vStopFWUpgradeProcess (j : Job) : Job :=
  let j := vSetBootloaderMsgStatus j true .none
  { j with btl := vAbortBootloaderSession j.btl }

/-- `vExecute_Bootloader_FWImgWrite_State`. -/
def vExecuteBootloaderFWImgWriteState (env : Env) (j : Job) : Except Btl Job :=
  if !j.btl.mgmt.bIsInitialized then .ok j
  else
    match j.msg.eCMD with
    | .fwUpStop => .ok (vStopFWUpgradeProcess j)
    | .fwUpEnd => vFinalizeFWImageWrite env j
    | .fwUpMsg => vUpdateFWImage env j
    | .getLostPacketInfo => .ok (vGetLostPacketInfo env j)
    | _ => .ok (vSetBootloaderMsgStatus j false .invalidCommand)

/-- `vExecute_Bootloader_Reboot`: the call of `sys_reboot` does not return. -/
def vExecuteBootloaderReboot (b : Btl) : Btl :=
  { vCancelBootloaderStateTimeOut b with halted := some .sysReboot }

/-- `vExecute_Bootloader_ErrorState`. -/
def vExecuteBootloaderErrorState (j : Job) : Job :=
  let j := { j with btl := (bIsFirstEntry j.btl).2 }
  match j.msg.eCMD with
  | .recoverFromError =>
      vSetBootloaderMsgStatus { j with btl := vReinitBootloaderStateMachine j.btl } true .none
  | _ => vSetBootloaderMsgStatus j false .invalidCommand

/-- `vUpdateBootloader`. -/
def vUpdateBootloader (env : Env) (j : Job) : Except Btl Job :=
  match j.btl.mgmt.eBtlState with
  | .inactive => .ok j
  | .idle => .ok (vExecuteBootloaderIdleState env j)
  | .fwImgWriteInProg => vExecuteBootloaderFWImgWriteState env j
  | .fwImgWriteCompleted => .ok (vExecuteBootloaderFWImgWriteCompleted env j)
  | .reboot => .error (vExecuteBootloaderReboot j.btl)
  | .error => .ok (vExecuteBootloaderErrorState j)
  | .waitForAuthResponse => .ok j

/-! ## §10. The timer handlers. -/

/-- `vBtlState_TimeOutHandler`. -/
def vBtlStateTimeOutHandler (env : Env) (b : Btl) : Except Btl Btl :=
  if !b.timers.bBootloaderStateTimeoutArmed then .ok b
  else
    let iRemainingTime_ms := b.timers.iBootloaderStateDeadline_ms - env.uptime
    if iRemainingTime_ms > 0 then
      .ok { b with timers := { b.timers with
        stBtlStateTimeOutWork := some (env.uptime + iRemainingTime_ms) } }
    else
      let b := vInvalidateBootloaderStateTimeOutLocked b
      if b.mgmt.eBtlState = .reboot then .error { b with halted := some .sysReboot }
      else .ok (cancelTxTimeOutWork (vAbortBootloaderSessionLocked b))

/-- `vBtlTxTimeOutHandler`. -/
def vBtlTxTimeOutHandler (env : Env) (b : Btl) : Btl :=
  if b.tx.eTxState = .idle then cancelTxTimeOutWork b
  else if b.tx.uiRetryCount ≥ BOOTLOADER_TX_Retry_MAX_COUNT then vProcessBootloaderTxError b
  else vProcessBootloaderRetryTx env { b with tx := { b.tx with eTxState := .retryInProgress } }

/-! ## §11. Initialization. -/

/-- The controller as `bInit_BootloaderController` leaves it before it opens
the partition. -/
def Btl.start (slot : FlashArea) (flash : Mem) : Btl where
  mgmt := {
    eBtlState := .inactive, bIsInitialized := false, bIsFirstEntry := false
    uiFlashAreaSize := 0, uiFWImgSize := 0, uiLibRev := 0, uiFWRev := 0, uiCRC := 0, uiHWRev := 0 }
  img := FWImgCtrl.cleared
  tx := LostPacketTx.cleared
  timers := {
    iBootloaderStateDeadline_ms := 0, bBootloaderStateTimeoutArmed := false
    stBtlStateTimeOutWork := none, stBtlTxTimeOutWork := none }
  slot := slot
  flashArea := none
  flash := flash
  log := []
  halted := none

/-- `bInit_BootloaderController`. -/
def bInitBootloaderController (slot : FlashArea) (flash : Mem) (env : Env) : Btl :=
  let b := flashAreaOpen env (Btl.start slot flash)
  if env.open_ ≠ 0 then b
  else
    let b := { b with mgmt := { b.mgmt with uiFlashAreaSize := slot.fa_size } }
    let b := flashAreaClose b
    { b with mgmt := { b.mgmt with eBtlState := .idle, bIsInitialized := true } }

end WallController.Bootloader
